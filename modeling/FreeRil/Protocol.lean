import FreeRil.Compiler.Dispatch

/-! The message groups of the modem protocol, one for each file of `protocol`.
The values of enumerated fields and the field comments are not part of the wire format. -/
namespace FreeRil
namespace Messages

def CallOriginate : MessageDefinition := .out "ORIGINATE" 1 .exec
  [.u16 "type", .u8 "allowCLI", .u8 "numberLength", .u8 "numberType",
   .vector "number" (.const 82), .u32 "reserved", .u8 "extension"]
def CallIncoming : MessageDefinition := .into "INCOMING" 2
  [.u16 "callType", .u8 "reserved", .u8 "lineId"]
def CallRelease : MessageDefinition := .out "RELEASE" 3 .exec []
def CallAnswer : MessageDefinition := .out "ANSWER" 4 .exec []
def CallStateChanged : MessageDefinition := .into "STATE_CHANGED" 5
  [.u16 "callType", .u8 "callId", .u8 "event", .u8 "releaseCause1", .u8 "releaseCause2"]
def CallGetCallList : MessageDefinition := .out "GET_CALL_LIST" 6 .get []
def CallGetCallListReply : MessageDefinition := .into "GET_CALL_LIST_REPLY" 6
  [.u8 "count",
   .array "callList" (.field "count")
     [.u16 "callType", .u8 "callId", .u8 "direction", .u8 "callState", .u8 "isMultiParty",
      .u8 "numberLength", .u8 "reserved", .vector "number" (.field "numberLength")],
   .vector "padding" .remainingBytes]
def CallSendBurstDtmf : MessageDefinition := .out "SEND_BURST_DTMF" 7 .exec
  [.u8 "unknown1", .u8 "length", .vector "data" (.field "length")]
def CallContinuousDtmf : MessageDefinition := .out "CONTINUOUS_DTMF" 8 .set
  [.u8 "action", .u8 "tone"]

def DispGetIconInformation : MessageDefinition := .out "GET_ICON_INFORMATION" 1 .get [.u8 "icon"]
def DispGetIconInformationReply : MessageDefinition := .into "GET_ICON_INFORMATION_REPLY" 1
  [.u8 "icon", .u8 "value", .u16 "unknown1"]
def DispRssiInformation : MessageDefinition := .into "RSSI_INFORMATION" 6 [.u8 "rssi"]

def GenCommandComplete : MessageDefinition := .into "COMMAND_COMPLETE" 1
  [.u8 "originalCommand", .u8 "originalSubcommand", .u8 "originalResponseType", .u16 "status"]

def MiscGetMobileEquipVersion : MessageDefinition := .out "GET_MOBILE_EQUIP_VERSION" 1 .get
  [.u8 "reserved"]
def MiscGetMobileEquipVersionReply : MessageDefinition := .into "GET_MOBILE_EQUIP_VERSION_REPLY" 1
  [.u8 "unused1", .vector "softwareVersion" (.const 32), .vector "hardwareVersion" (.const 32),
   .vector "RFCalDate" (.const 32), .vector "productCode" (.const 32),
   .vector "model" (.const 17), .u8 "PRLNum", .u8 "unused2"]
def MiscSetDebugLevel : MessageDefinition := .out "SET_DEBUG_LEVEL" 2 .event [.u8 "level"]
def MiscGetMobileEquipImsi : MessageDefinition := .out "GET_MOBILE_EQUIP_IMSI" 2 .get []
def MiscGetMobileEquipImsiReply : MessageDefinition := .into "GET_MOBILE_EQUIP_IMSI_REPLY" 2
  [.u8 "stringLength", .vector "imsi" (.field "stringLength")]
def MiscGetMobileEquipSerialNumber : MessageDefinition := .out "GET_MOBILE_EQUIP_SERIAL_NUMBER" 3 .get
  [.u8 "reserved"]
def MiscGetMobileEquipSerialNumberReply : MessageDefinition := .into "GET_MOBILE_EQUIP_SERIAL_NUMBER_REPLY" 3
  [.u8 "reserved", .u8 "stringLength", .vector "serial" (.const 32)]
def MiscSetModemInterfaceMode : MessageDefinition := .out "SET_MODEM_INTERFACE_MODE" 3 .set
  [.u8 "mode"]

def NetGetPlmnSelection : MessageDefinition := .out "GET_PLMN_SELECTION" 2 .get []
def NetGetPlmnSelectionReply : MessageDefinition := .into "GET_PLMN_SELECTION_REPLY" 2
  [.u8 "selection"]
def NetSetPlmnSelection : MessageDefinition := .out "SET_PLMN_SELECTION" 2 .set
  [.u8 "selection", .vector "network" (.const 6), .u8 "unknown1"]
def NetGetCurrentPlmn : MessageDefinition := .out "GET_CURRENT_PLMN" 3 .get []
def NetGetCurrentPlmnReply : MessageDefinition := .into "GET_CURRENT_PLMN_REPLY" 3
  [.u8 "unknown1", .u16 "unknown2", .vector "plmn" (.const 6), .u16 "unknown3"]
def NetGetPlmnList : MessageDefinition := .out "GET_PLMN_LIST" 4 .get []
def NetGetPlmnListReply : MessageDefinition := .into "GET_PLMN_LIST_REPLY" 4
  [.u8 "count",
   .array "plmnList" (.field "count") [.u8 "status", .vector "plmn" (.const 6), .data "unknown" 3]]
def NetGetNetworkRegistration : MessageDefinition := .out "GET_NETWORK_REGISTRATION" 5 .get
  [.u8 "unknown1", .u8 "serviceDomain"]
def NetGetNetworkRegistrationReply : MessageDefinition := .into "GET_NETWORK_REGISTRATION_REPLY" 5
  [.u8 "act", .u8 "serviceDomain", .u8 "registrationStatus", .u8 "unknown1", .u16 "lac",
   .u32 "cid", .u8 "unknown2"]
def NetGetBandSelection : MessageDefinition := .out "GET_BAND_SELECTION" 7 .get []
def NetGetBandSelectionReply : MessageDefinition := .into "GET_BAND_SELECTION_REPLY" 7
  [.u8 "unknown1", .u32 "band"]
def NetSetBandSelection : MessageDefinition := .out "SET_BAND_SELECTION" 7 .set
  [.u8 "unknown1", .u32 "band"]
def NetGetModeSelect : MessageDefinition := .out "GET_MODE_SELECT" 10 .get []
def NetGetModeSelectReply : MessageDefinition := .into "GET_MODE_SELECT_REPLY" 10 [.u8 "mode"]
def NetSetModeSelect : MessageDefinition := .out "SET_MODE_SELECT" 10 .set [.u8 "mode"]

def PwrPhonePowerOn : MessageDefinition := .out "PHONE_POWER_ON" 1 .exec [.data "reserved" 8196]
def PwrPhoneBootComplete : MessageDefinition := .into "PHONE_BOOT_COMPLETE" 1 [.u8 "type"]
def PwrPhonePowerOff : MessageDefinition := .out "PHONE_POWER_OFF" 2 .exec []
def PwrPhonePoweredOff : MessageDefinition := .into "PHONE_POWERED_OFF" 2 [.u8 "reason"]
def PwrPhoneReset : MessageDefinition := .into "PHONE_RESET" 3 []
def PwrPhoneSetMode : MessageDefinition := .out "PHONE_SET_MODE" 7 .exec [.u8 "mode", .u8 "flags"]
def PwrPhoneModeChanged : MessageDefinition := .into "PHONE_MODE_CHANGED" 7 [.u8 "mode"]

def RfsNvRead : MessageDefinition := .into "NV_READ" 1 [.u32 "offset", .u32 "size"]
def RfsNvReadReply : MessageDefinition := .out "NV_READ_REPLY" 1 .exec
  [.u8 "status", .u32 "offset", .u32 "size", .vector "data" (.const 512)]
def RfsNvWrite : MessageDefinition := .into "NV_WRITE" 2
  [.u32 "offset", .u32 "size", .vector "data" (.field "size")]
def RfsNvWriteReply : MessageDefinition := .out "NV_WRITE_REPLY" 2 .exec
  [.u8 "status", .u32 "offset", .u32 "size"]
def RfsReadFile : MessageDefinition := .into "READ_FILE" 3 [.u32 "fd", .u32 "bytes"]
def RfsReadFileReply : MessageDefinition := .out "READ_FILE_REPLY" 3 .exec
  [.u32 "ret", .u32 "errno", .vector "data" (.const 4096)]
def RfsWriteFile : MessageDefinition := .into "WRITE_FILE" 4
  [.u32 "fd", .u32 "bytes", .vector "data" (.field "bytes")]
def RfsWriteFileReply : MessageDefinition := .out "WRITE_FILE_REPLY" 4 .exec
  [.u32 "ret", .u32 "errno"]
def RfsLseekFile : MessageDefinition := .into "LSEEK_FILE" 5
  [.u32 "fd", .u32 "offset", .u32 "whence"]
def RfsLseekFileReply : MessageDefinition := .out "LSEEK_FILE_REPLY" 5 .exec
  [.u32 "ret", .u32 "errno"]
def RfsCloseFile : MessageDefinition := .into "CLOSE_FILE" 6 [.u32 "fd"]
def RfsCloseFileReply : MessageDefinition := .out "CLOSE_FILE_REPLY" 6 .exec
  [.u32 "ret", .u32 "errno"]
def RfsPutFile : MessageDefinition := .into "PUT_FILE" 7
  [.u32 "flags", .u32 "nameSize", .vector "name" (.const 1024), .u32 "bytes",
   .vector "data" (.field "bytes")]
def RfsPutFileReply : MessageDefinition := .out "PUT_FILE_REPLY" 7 .exec
  [.u32 "ret", .u32 "errno"]
def RfsGetFile : MessageDefinition := .into "GET_FILE" 8
  [.u32 "nameSize", .vector "name" (.const 1024), .u32 "size"]
def RfsGetFileReply : MessageDefinition := .out "GET_FILE_REPLY" 8 .exec
  [.u32 "ret", .u32 "errno", .vector "data" (.const 4096)]
def RfsRenameFile : MessageDefinition := .into "RENAME_FILE" 9
  [.u32 "oldNameSize", .vector "oldName" (.const 1024), .u32 "newNameSize",
   .vector "newName" (.const 1024)]
def RfsRenameFileReply : MessageDefinition := .out "RENAME_FILE_REPLY" 9 .exec
  [.u32 "ret", .u32 "errno"]
def RfsGetFileInfo : MessageDefinition := .into "GET_FILE_INFO" 10
  [.u32 "nameSize", .vector "name" (.const 1024)]
def RfsGetFileInfoReply : MessageDefinition := .out "GET_FILE_INFO_REPLY" 10 .exec
  [.u32 "ret", .u16 "type", .u32 "size", .u8 "cyear", .u8 "cmonth", .u8 "cday", .u8 "chour",
   .u8 "cminute", .u8 "csecond", .u8 "myear", .u8 "mmonth", .u8 "mday", .u8 "mhour",
   .u8 "mminute", .u8 "msecond", .u32 "errno"]
def RfsDeleteFile : MessageDefinition := .into "DELETE_FILE" 11
  [.u32 "nameSize", .vector "name" (.const 1024)]
def RfsDeleteFileReply : MessageDefinition := .out "DELETE_FILE_REPLY" 11 .exec
  [.u32 "ret", .u32 "errno"]
def RfsMakeDirectory : MessageDefinition := .into "MAKE_DIRECTORY" 12
  [.u32 "nameSize", .vector "name" (.const 1024)]
def RfsMakeDirectoryReply : MessageDefinition := .out "MAKE_DIRECTORY_REPLY" 12 .exec
  [.u32 "ret", .u32 "errno"]
def RfsDeleteDirectory : MessageDefinition := .into "DELETE_DIRECTORY" 13
  [.u32 "nameSize", .vector "name" (.const 1024)]
def RfsDeleteDirectoryReply : MessageDefinition := .out "DELETE_DIRECTORY_REPLY" 13 .exec
  [.u32 "ret", .u32 "errno"]
def RfsOpenDirectory : MessageDefinition := .into "OPEN_DIRECTORY" 14
  [.u32 "nameSize", .vector "name" (.const 1024)]
def RfsOpenDirectoryReply : MessageDefinition := .out "OPEN_DIRECTORY_REPLY" 14 .exec
  [.u32 "ret", .u32 "errno"]
def RfsReadDirectory : MessageDefinition := .into "READ_DIRECTORY" 15 [.u32 "fd"]
def RfsReadDirectoryReply : MessageDefinition := .out "READ_DIRECTORY_REPLY" 15 .exec
  [.u32 "ret", .u32 "nameLength", .vector "name" (.const 1024), .u32 "errno"]
def RfsCloseDirectory : MessageDefinition := .into "CLOSE_DIRECTORY" 16 [.u32 "fd"]
def RfsCloseDirectoryReply : MessageDefinition := .out "CLOSE_DIRECTORY_REPLY" 16 .exec
  [.u32 "ret", .u32 "errno"]
def RfsOpenFile : MessageDefinition := .into "OPEN_FILE" 17
  [.u32 "flags", .u32 "nameSize", .vector "name" (.const 1024)]
def RfsOpenFileReply : MessageDefinition := .out "OPEN_FILE_REPLY" 17 .exec
  [.u32 "ret", .u32 "errno"]
def RfsFtruncateFile : MessageDefinition := .into "FTRUNCATE_FILE" 18 [.u32 "fd", .u32 "size"]
def RfsFtruncateFileReply : MessageDefinition := .out "FTRUNCATE_FILE_REPLY" 18 .exec
  [.u32 "ret", .u32 "errno"]
def RfsGetFileInfoByHandle : MessageDefinition := .into "GET_FILE_INFO_BY_HANDLE" 19 [.u32 "fd"]
def RfsGetFileInfoByHandleReply : MessageDefinition := .out "GET_FILE_INFO_BY_HANDLE_REPLY" 19 .exec
  [.u32 "ret", .u16 "type", .u32 "size", .u8 "cyear", .u8 "cmonth", .u8 "cday", .u8 "chour",
   .u8 "cminute", .u8 "csecond", .u8 "myear", .u8 "mmonth", .u8 "mday", .u8 "mhour",
   .u8 "mminute", .u8 "msecond", .u32 "errno"]
def RfsNvWriteAll : MessageDefinition := .into "NV_WRITE_ALL" 21
  [.u32 "offset", .u32 "size", .vector "data" (.field "size")]
def RfsNvWriteAllReply : MessageDefinition := .out "NV_WRITE_ALL_REPLY" 21 .exec
  [.u8 "status", .u32 "offset", .u32 "size"]

def SecSetPinStatus : MessageDefinition := .out "SET_PIN_STATUS" 1 .set
  [.u8 "type", .u8 "pin1Length", .u8 "pin2Length", .vector "pin1" (.const 8),
   .vector "pin2" (.const 8)]
def SecGetPinStatus : MessageDefinition := .out "GET_PIN_STATUS" 1 .get []
def SecGetPinStatusReply : MessageDefinition := .into "GET_PIN_STATUS_REPLY" 1
  [.u8 "state", .u8 "xstate"]
def SecChangeLockPwd : MessageDefinition := .out "CHANGE_LOCK_PWD" 3 .set
  [.u8 "type", .u8 "currentLength", .u8 "newLength", .vector "currentPwd" (.const 39),
   .vector "newPwd" (.const 39)]
def SecRsimAccess : MessageDefinition := .out "RSIM_ACCESS" 5 .get
  [.u8 "cmd", .u16 "fileId", .u8 "p1", .u8 "p2", .u8 "p3", .vector "data" (.const 256)]
def SecRsimAccessReply : MessageDefinition := .into "RSIM_ACCESS_REPLY" 5
  [.u8 "sw1", .u8 "sw2", .u8 "dataLength", .vector "data" (.field "dataLength")]
def SecSimCardType : MessageDefinition := .into "SIM_CARD_TYPE" 7 [.u8 "cardType", .u8 "iccType"]

def SndSetVolumeCtrl : MessageDefinition := .out "SET_VOLUME_CTRL" 1 .set
  [.u8 "device", .u8 "volume"]
def SndGetMicMute : MessageDefinition := .out "GET_MIC_MUTE" 2 .get []
def SndGetMicMuteReply : MessageDefinition := .into "GET_MIC_MUTE_REPLY" 2 [.u8 "mute"]
def SndSetMicMute : MessageDefinition := .out "SET_MIC_MUTE" 2 .set [.u8 "mute"]
def SndSetAudioPath : MessageDefinition := .out "SET_AUDIO_PATH" 3 .set [.u8 "path"]
def SndSetLoopbackCtrl : MessageDefinition := .out "SET_LOOPBACK_CTRL" 5 .set [.u8 "ctrl"]
def SndSetVoiceRecordingCtrl : MessageDefinition := .out "SET_VOICE_RECORDING_CTRL" 6 .set
  [.u8 "record"]
def SndSetVideoCallCtrl : MessageDefinition := .out "SET_VIDEO_CALL_CTRL" 7 .set [.u8 "clock"]
def SndExecClockCtrl : MessageDefinition := .out "EXEC_CLOCK_CTRL" 9 .exec [.u8 "clock"]
def SndSetTwoMicCtrl : MessageDefinition := .out "SET_TWO_MIC_CTRL" 11 .set
  [.u8 "param1", .u8 "param2"]
def SndSetDhaCtrl : MessageDefinition := .out "SET_DHA_CTRL" 12 .set
  [.u8 "mode", .u8 "select", .vector "parameter" (.const 24)]

def SsManageCall : MessageDefinition := .out "MANAGE_CALL" 3 .set
  [.u8 "callCommand", .u8 "callId", .data "reserved" 83]

def SvcEnterServiceMode : MessageDefinition := .out "ENTER_SERVICE_MODE" 1 .set
  [.u8 "modeType", .u16 "subType"]
def SvcExitServiceMode : MessageDefinition := .out "EXIT_SERVICE_MODE" 2 .set [.u8 "modeType"]
def SvcProcessKeyCode : MessageDefinition := .out "PROCESS_KEY_CODE" 3 .set [.u8 "keyCode"]
def SvcDisplayScreen : MessageDefinition := .into "DISPLAY_SCREEN" 5
  [.u8 "lineCount",
   .array "lines" (.field "lineCount") [.u8 "unknown1", .u8 "unknown2", .vector "line" (.const 32)]]

end Messages

open Messages

def CMD_CALL : MessageGroup where
  id := "CALL"
  type := 2
  messages := [CallOriginate, CallIncoming, CallRelease, CallAnswer, CallStateChanged, CallGetCallList,
    CallGetCallListReply, CallSendBurstDtmf, CallContinuousDtmf]
  unsolicited_messages := ["INCOMING", "STATE_CHANGED"]

def CMD_DISP : MessageGroup where
  id := "DISP"
  type := 7
  messages := [DispGetIconInformation, DispGetIconInformationReply, DispRssiInformation]
  unsolicited_messages := ["GET_ICON_INFORMATION_REPLY", "RSSI_INFORMATION"]

def CMD_GEN : MessageGroup where
  id := "GEN"
  type := 128
  messages := [GenCommandComplete]
  unsolicited_messages := []

def CMD_MISC : MessageGroup where
  id := "MISC"
  type := 10
  messages := [MiscGetMobileEquipVersion, MiscGetMobileEquipVersionReply, MiscSetDebugLevel,
    MiscGetMobileEquipImsi, MiscGetMobileEquipImsiReply, MiscGetMobileEquipSerialNumber,
    MiscGetMobileEquipSerialNumberReply, MiscSetModemInterfaceMode]
  unsolicited_messages := ["GET_MOBILE_EQUIP_IMSI_REPLY"]

def CMD_NET : MessageGroup where
  id := "NET"
  type := 8
  messages := [NetGetPlmnSelection, NetGetPlmnSelectionReply, NetSetPlmnSelection, NetGetCurrentPlmn,
    NetGetCurrentPlmnReply, NetGetPlmnList, NetGetPlmnListReply, NetGetNetworkRegistration,
    NetGetNetworkRegistrationReply, NetGetBandSelection, NetGetBandSelectionReply,
    NetSetBandSelection, NetGetModeSelect, NetGetModeSelectReply, NetSetModeSelect]
  unsolicited_messages := ["GET_CURRENT_PLMN_REPLY", "GET_NETWORK_REGISTRATION_REPLY"]

def CMD_PWR : MessageGroup where
  id := "PWR"
  type := 1
  messages := [PwrPhonePowerOn, PwrPhoneBootComplete, PwrPhonePowerOff, PwrPhonePoweredOff, PwrPhoneReset,
    PwrPhoneSetMode, PwrPhoneModeChanged]
  unsolicited_messages :=
    ["PHONE_BOOT_COMPLETE", "PHONE_POWERED_OFF", "PHONE_RESET", "PHONE_MODE_CHANGED"]

def CMD_RFS : MessageGroup where
  id := "RFS"
  type := 21
  messages := [RfsNvRead, RfsNvReadReply, RfsNvWrite, RfsNvWriteReply, RfsReadFile, RfsReadFileReply,
    RfsWriteFile, RfsWriteFileReply, RfsLseekFile, RfsLseekFileReply, RfsCloseFile,
    RfsCloseFileReply, RfsPutFile, RfsPutFileReply, RfsGetFile, RfsGetFileReply, RfsRenameFile,
    RfsRenameFileReply, RfsGetFileInfo, RfsGetFileInfoReply, RfsDeleteFile, RfsDeleteFileReply,
    RfsMakeDirectory, RfsMakeDirectoryReply, RfsDeleteDirectory, RfsDeleteDirectoryReply,
    RfsOpenDirectory, RfsOpenDirectoryReply, RfsReadDirectory, RfsReadDirectoryReply,
    RfsCloseDirectory, RfsCloseDirectoryReply, RfsOpenFile, RfsOpenFileReply, RfsFtruncateFile,
    RfsFtruncateFileReply, RfsGetFileInfoByHandle, RfsGetFileInfoByHandleReply, RfsNvWriteAll,
    RfsNvWriteAllReply]
  unsolicited_messages := []

def CMD_SEC : MessageGroup where
  id := "SEC"
  type := 5
  messages := [SecSetPinStatus, SecGetPinStatus, SecGetPinStatusReply, SecChangeLockPwd, SecRsimAccess,
    SecRsimAccessReply, SecSimCardType]
  unsolicited_messages := ["GET_PIN_STATUS_REPLY", "SIM_CARD_TYPE"]

def CMD_SND : MessageGroup where
  id := "SND"
  type := 9
  messages := [SndSetVolumeCtrl, SndGetMicMute, SndGetMicMuteReply, SndSetMicMute, SndSetAudioPath,
    SndSetLoopbackCtrl, SndSetVoiceRecordingCtrl, SndSetVideoCallCtrl, SndExecClockCtrl,
    SndSetTwoMicCtrl, SndSetDhaCtrl]
  unsolicited_messages := []

def CMD_SS : MessageGroup where
  id := "SS"
  type := 12
  messages := [SsManageCall]
  unsolicited_messages := []

def CMD_SVC : MessageGroup where
  id := "SVC"
  type := 11
  messages := [SvcEnterServiceMode, SvcExitServiceMode, SvcProcessKeyCode, SvcDisplayScreen]
  unsolicited_messages := ["DISPLAY_SCREEN"]

/-- All groups, in the order of their files. -/
def protocol : Protocol :=
  ⟨[CMD_CALL, CMD_DISP, CMD_GEN, CMD_MISC, CMD_NET, CMD_PWR, CMD_RFS, CMD_SEC, CMD_SND, CMD_SS,
    CMD_SVC]⟩

theorem protocol_wellDescribed : protocol.WellDescribed where
  ids := by decide +kernel
  types := by decide +kernel
  names := by decide +kernel
  incoming := by decide +kernel
  not_cmd := by decide +kernel
  bounds := by decide +kernel

end FreeRil
