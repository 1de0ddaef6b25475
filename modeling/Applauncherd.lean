import Applauncherd.Wire.Stream
import Applauncherd.Wire.Process
import Applauncherd.Wire.Address
import Applauncherd.Wire.Dialogue
import Applauncherd.Launcher.Codes
import Applauncherd.Launcher.Environ
import Applauncherd.Launcher.Receive
import Applauncherd.Launcher.Actions
import Applauncherd.Launcher.Application
import Applauncherd.Launcher.Delivery
import Applauncherd.Launcher.Daemon
import Applauncherd.Launcher.Spares
import Applauncherd.Launcher.Startup
import Applauncherd.Launcher.Pool
import Applauncherd.Launcher.Termination
import Applauncherd.Launcher.Turns
import Applauncherd.Launcher.Log
import Applauncherd.Invoker.Invoke
import Applauncherd.Invoker.Session
import Applauncherd.Invoker.Main
import Applauncherd.Invoker.Refusal
