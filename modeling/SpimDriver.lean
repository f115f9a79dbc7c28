import SpimDriver.Header
import SpimDriver.Machine
import SpimDriver.Driver
import SpimDriver.DriverTheorems
import SpimDriver.WordTheorems
import SpimDriver.ControlTheorems
import SpimDriver.RequestTheorems
import SpimDriver.System
import SpimDriver.Configuration
import SpimDriver.CommandBlock
import SpimDriver.Lifecycle
import SpimDriver.Completion
import SpimDriver.Interleaving
import SpimDriver.InterleavingTheorems
import SpimDriver.Atomicity
import SpimDriver.BusyFlag
import SpimDriver.Trampoline
