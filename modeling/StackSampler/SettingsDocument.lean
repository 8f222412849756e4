import StackSampler.FileFault
import StackSampler.Json.Document
import StackSampler.Json.Reader
import StackSampler.Settings

/-!
Settings as JSON documents, and settings read from a text or a file. A member that is left out has
its default.
-/

namespace StackSampler

open Json.Reader (member record)

def Settings.document (settings : Settings) : Json.Document :=
  .record [("interval_ms", .word settings.intervalMillis),
    ("buffer_capacity", .word settings.bufferCapacity),
    ("name_cache_capacity", .word settings.nameCapacity),
    ("max_frames", .word settings.maxFrames)]

structure SettingsDraft where
  intervalMillis : Option UInt64 := none
  bufferCapacity : Option UInt64 := none
  nameCapacity : Option UInt64 := none
  maxFrames : Option UInt64 := none

def SettingsDraft.settings (draft : SettingsDraft) : Settings :=
  let defaults : Settings := {}
  { intervalMillis := draft.intervalMillis.getD defaults.intervalMillis
    bufferCapacity := draft.bufferCapacity.getD defaults.bufferCapacity
    nameCapacity := draft.nameCapacity.getD defaults.nameCapacity
    maxFrames := draft.maxFrames.getD defaults.maxFrames }

inductive SettingsError where
  | unreadable (path : String) (fault : FileFault)
  | unparsable (fault : Json.Fault)
  | invalid (setting : InvalidSetting)
deriving DecidableEq, Repr

def SettingsError.message : SettingsError → String
  | unreadable path fault => s!"failed to read config file {path}: {fault.message}"
  | unparsable fault => s!"failed to parse sampler config: {fault.message}"
  | invalid setting => setting.message

namespace Settings

def reader : Json.Reader Settings :=
  record
    [member "interval_ms" SettingsDraft.intervalMillis
        (fun draft intervalMillis => { draft with intervalMillis }) .word64,
      member "buffer_capacity" SettingsDraft.bufferCapacity
        (fun draft bufferCapacity => { draft with bufferCapacity }) .word64,
      member "name_cache_capacity" SettingsDraft.nameCapacity
        (fun draft nameCapacity => { draft with nameCapacity }) .word64,
      member "max_frames" SettingsDraft.maxFrames (fun draft maxFrames => { draft with maxFrames })
        .word64]
    true {} (fun draft => some draft.settings)

def ofText (text : String) : Except SettingsError Settings :=
  match Json.parse reader text with
  | .error fault => .error (.unparsable fault)
  | .ok settings =>
      match settings.check with
      | .error invalid => .error (.invalid invalid)
      | .ok () => .ok settings

def ofFile (path : String) (content : Except FileFault ByteArray) : Except SettingsError Settings :=
  match content with
  | .error fault => .error (.unreadable path fault)
  | .ok bytes =>
      match String.fromUTF8? bytes with
      | none => .error (.unreadable path .invalidText)
      | some text => ofText text

end Settings

end StackSampler
