import UcosProxy.Runs
import UcosProxy.Bytes
import UcosProxy.TextPieces
import UcosProxy.RestartingSum
import UcosProxy.TftpClient
import UcosProxy.TftpSteps
import UcosProxy.FirmwareImage
import UcosProxy.TftpServer
import UcosProxy.Semaphore
import UcosProxy.TftpReceive
import UcosProxy.UpdateThread
import UcosProxy.UpdateStart
import UcosProxy.UpdateProgress
import UcosProxy.TransferHost
import UcosProxy.UriParameters
import UcosProxy.HttpPost
import UcosProxy.PostIsolation
import UcosProxy.BitFields
import UcosProxy.ControlRequire
import UcosProxy.ControlMemory
import UcosProxy.CaptureBounds
import UcosProxy.ControlTables
import UcosProxy.PortArrays
import UcosProxy.CgiAccess
import UcosProxy.PortCgi
import UcosProxy.PortFrames
import UcosProxy.DeviceOrigin
import UcosProxy.ConfigStore
import UcosProxy.CgiHandlers
import UcosProxy.CgiSafety
import UcosProxy.ControlTimeout
import UcosProxy.TransferId
import UcosProxy.FlashContents
import UcosProxy.BoardsPage
import UcosProxy.TagScan
import UcosProxy.BoardsSending
import UcosProxy.OutcomeTexts
import UcosProxy.FormEncoding
import UcosProxy.AccountLogin
import UcosProxy.UpdateName
import UcosProxy.PortRecords
import UcosProxy.PortLines
import UcosProxy.PortCells
import UcosProxy.PortForms
import UcosProxy.BodySplits
import UcosProxy.ReplyData
import UcosProxy.PortChanges
import UcosProxy.TableReads
import UcosProxy.InsertBounds
import UcosProxy.NetAddresses
import UcosProxy.Weaving
import UcosProxy.HttpSend
import UcosProxy.HttpParsing
import UcosProxy.HttpSending
import UcosProxy.HttpProgress
import UcosProxy.HttpFiles
import UcosProxy.HttpClient
import UcosProxy.AjaxPages
import UcosProxy.PageScripts
import UcosProxy.Holdings
import UcosProxy.FileTable
import UcosProxy.HttpServer
import UcosProxy.HttpServing
import UcosProxy.HttpPolling
import UcosProxy.IapServer
import UcosProxy.IapTransfer
import UcosProxy.FirmwareNetwork
import UcosProxy.UpdatePage
