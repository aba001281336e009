/-
Texts that stand for others by a digest. A digest has a fixed number of digits, so keys that are joined from digests can
be taken apart again.

Results:
- `sender_inj`: a key of two digests, the second of them optional, and a name says all three.
-/
import Mathlib.Data.List.Basic

namespace SeeMirai

/-- SHA-256 of a text, as hexadecimal text -/
class Digest where
  sha256 : String → String

/-- a digest of 64 digits -/
class HexDigest extends Digest where
  length_sha256 : ∀ value : String, (sha256 value).toList.length = 64

namespace Digest

/-- `sha256:` and the digest -/
def tagged [Digest] (value : String) : String := "sha256:" ++ sha256 value

/-- the key of a sender: chat, user where there is one, and a name -/
def senderKey [Digest] (chat : String) (user : Option String) (name : String) : String :=
  tagged chat ++ ":" ++ (match user with | some user => tagged user | none => "user:none") ++ ":" ++ name

theorem colon_append_inj {rest rest' : String} (h : ":" ++ rest = ":" ++ rest') : rest = rest' := by
  have hlist : ":".toList ++ rest.toList = ":".toList ++ rest'.toList := by
    rw [← String.toList_append, ← String.toList_append, h]
  exact String.toList_inj.1 (List.append_cancel_left hlist)

section Hex

variable [HexDigest]

theorem length_tagged (value : String) : (tagged value).toList.length = 71 := by
  unfold tagged
  rw [String.toList_append, List.length_append, HexDigest.length_sha256]
  rfl

theorem tagged_append_inj {value value' rest rest' : String} (h : tagged value ++ rest = tagged value' ++ rest') :
    sha256 value = sha256 value' ∧ rest = rest' := by
  have hlist : (tagged value).toList ++ rest.toList = (tagged value').toList ++ rest'.toList := by
    rw [← String.toList_append, ← String.toList_append, h]
  obtain ⟨htagged, hrest⟩ := List.append_inj hlist (by rw [length_tagged, length_tagged])
  refine ⟨?_, String.toList_inj.1 hrest⟩
  unfold tagged at htagged
  rw [String.toList_append, String.toList_append] at htagged
  exact String.toList_inj.1 (List.append_cancel_left htagged)

theorem tagged_ne_userNone {value rest rest' : String} : tagged value ++ rest ≠ "user:none" ++ rest' := by
  intro h
  have hhead := congrArg (fun text => text.toList.head?) h
  simp [tagged] at hhead

/-- **A sender's key** says the digests of chat and user, and the name. -/
theorem sender_inj {chat chat' name name' : String} {user user' : Option String}
    (h : senderKey chat user name = senderKey chat' user' name') :
    sha256 chat = sha256 chat' ∧ user.map sha256 = user'.map sha256 ∧ name = name' := by
  unfold senderKey at h
  simp only [String.append_assoc] at h
  obtain ⟨hchat, h⟩ := tagged_append_inj h
  have h := colon_append_inj h
  cases user with
  | none =>
    cases user' with
    | none =>
      have hlist := congrArg String.toList h
      simp only [String.toList_append] at hlist
      have hname := List.append_cancel_left (List.append_cancel_left hlist)
      exact ⟨hchat, rfl, String.toList_inj.1 hname⟩
    | some user' => exact absurd h.symm tagged_ne_userNone
  | some user =>
    cases user' with
    | none => exact absurd h tagged_ne_userNone
    | some user' =>
      obtain ⟨huser, h⟩ := tagged_append_inj h
      exact ⟨hchat, congrArg some huser, colon_append_inj h⟩

end Hex

end Digest

end SeeMirai
