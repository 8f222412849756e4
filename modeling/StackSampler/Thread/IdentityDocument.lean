import StackSampler.Json.Document
import StackSampler.Json.Reader
import StackSampler.Thread.Directory

/-!
Thread handles and identities as JSON documents. A handle is a bare number.
-/

namespace StackSampler

open Json.Reader (member record)

def ThreadHandle.document (thread : ThreadHandle) : Json.Document := .word thread.word

def ThreadHandle.reader : Json.Reader ThreadHandle := return ⟨← Json.Reader.word64⟩

def ThreadIdentity.document (identity : ThreadIdentity) : Json.Document :=
  .record [("native_id", .natural identity.nativeId.toNat), ("name", .text identity.name)]

structure ThreadIdentityDraft where
  nativeId : Option UInt32 := none
  name : Option String := none

def ThreadIdentityDraft.identity? (draft : ThreadIdentityDraft) : Option ThreadIdentity :=
  return ⟨← draft.nativeId, ← draft.name⟩

def ThreadIdentity.reader : Json.Reader ThreadIdentity :=
  record
    [member "native_id" ThreadIdentityDraft.nativeId
        (fun draft nativeId => { draft with nativeId }) .word32,
      member "name" ThreadIdentityDraft.name (fun draft name => { draft with name }) .text]
    false {} ThreadIdentityDraft.identity?

end StackSampler
