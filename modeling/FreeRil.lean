import FreeRil.Compiler.Reading
import FreeRil.Compiler.Objects
import FreeRil.Reassembly
import FreeRil.IPCSocketHandler.Response
import FreeRil.IPCSocketHandler.Requests
import FreeRil.IPCSocketHandler.Exhaustion
import FreeRil.AndroidFileSystem.Paths
import FreeRil.AndroidFileSystem.CrashRecovery
import FreeRil.AndroidFileSystem.Session
import FreeRil.AndroidFileSystem.WriteCrash
import FreeRil.AndroidFileSystem.Backup
import FreeRil.RFSSocketHandler.NVArray
import FreeRil.RFSSocketHandler.Descriptors
import FreeRil.RFSSocketHandler.ReadReplies
import FreeRil.RFSSocketHandler.Directories
import FreeRil.RequestHandler.Completed
import FreeRil.RequestHandler.CallIndex
import FreeRil.RequestHandler.Accepted
import FreeRil.RequestHandler.Agreement
import FreeRil.RequestHandler.Frames
import FreeRil.OEMRequestBuilder
import FreeRil.RIL.Freshness
import FreeRil.RIL.LowPower
import FreeRil.RIL.Execution
import FreeRil.RequestHandler.Padding
import FreeRil.RequestHandler.Hex
import FreeRil.RequestHandler.TableAccess
import FreeRil.CrossClient
import FreeRil.Disclosure
import FreeRil.SamsungModem.Delivery
import FreeRil.RilClient
import FreeRil.PhoneService
import FreeRil.OemUnsolicited
import FreeRil.DatabaseExtractor
import FreeRil.IPCWorkerThread.Pipeline
import FreeRil.IPCWorkerThread.Accounting
import FreeRil.RilInterface.Wakeups
import FreeRil.ArmDl.Symbols
import FreeRil.ArmDl.Dynamic
import FreeRil.DatabaseExtractor.Lookup
import FreeRil.SamsungModem.Dump
import FreeRil.USBIPCTransport.Booting
import FreeRil.CrossClientService.Clients
