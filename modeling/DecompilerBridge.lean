import DecompilerBridge.Main
import DecompilerBridge.Probe
import DecompilerBridge.Proofs.Entry
import DecompilerBridge.Proofs.Preferences.History
import DecompilerBridge.Proofs.Preferences.Registration
import DecompilerBridge.Proofs.Run.History
import DecompilerBridge.Proofs.Run.HostPanic
import DecompilerBridge.Proofs.Run.Reentrancy
import DecompilerBridge.Proofs.Run.HostAccess
import DecompilerBridge.Proofs.Run.EntryCall
import DecompilerBridge.Proofs.Run.Diagnostics
import DecompilerBridge.Proofs.Run.Deadline
import DecompilerBridge.Proofs.Run.States
import DecompilerBridge.Proofs.Run.BrokenDriver
import DecompilerBridge.Proofs.Run.ModuleChains
import DecompilerBridge.Proofs.Run.NativeErrors
import DecompilerBridge.Proofs.Run.Descriptions
import DecompilerBridge.Proofs.Shell.Arguments
import DecompilerBridge.Proofs.Shell.InputModes
import DecompilerBridge.Proofs.Shell.SessionPreferences
import DecompilerBridge.Proofs.Shell.Routing
import DecompilerBridge.Proofs.Shell.Timeouts
import DecompilerBridge.Proofs.Shell.Completions
import DecompilerBridge.Proofs.Shell.ConfiguredPreferences
import DecompilerBridge.Proofs.Shell.ModuleLookup
import DecompilerBridge.Proofs.Shell.ConfigFile
import DecompilerBridge.Proofs.Shell.Reading
