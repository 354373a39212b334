import StreamRelay.Text.Lowercase
import StreamRelay.Text.Search

/-!
# Phrases of failed look-ups

The phrases under which resolvers and media tools report that a host name has no address, and the
search for them in any text.

Main statement: to search a text for them its characters can be lowered each on its own
(`mentionsFailure_eq`).
-/

namespace StreamRelay.Resolution

/-- The phrases that tell of a failed look-up, in lower case. -/
def phrases : List String := [
  "name or service not known",
  "temporary failure in name resolution",
  "no address associated with hostname",
  "could not resolve host",
  "could not resolve hostname",
  "getaddrinfo failed",
  "nodename nor servname provided",
  "server name not resolved",
  "name resolution failed",
  "dns_error",
  "resolution of host",
  "failed to lookup address information"]

/-- Whether one of the phrases occurs in the lower-case form of a text. -/
def mentionsFailure (text : String) : Bool :=
  let lower := Text.lowercaseText text.toList
  phrases.any (fun p => Text.occursIn p.toList lower)

/-- No phrase has a sigma in it, so that the form of one does not matter to the search. -/
theorem occursIn_lowercaseText {p : String} (mem : p ∈ phrases) (cs : List Char) :
    Text.occursIn p.toList (Text.lowercaseText cs) = Text.occursIn p.toList (Text.lowercase cs) := by
  have sigmas : ∀ p ∈ phrases, '\u03C2' ∉ p.toList ∧ '\u03C3' ∉ p.toList := by decide +kernel
  have fixes : ∀ a ∈ p.toList, ∀ x, Text.plainSigma x = a ↔ x = a := by
    intro a here x
    obtain ⟨final, inner⟩ := sigmas p mem
    unfold Text.plainSigma
    split
    · next sigma =>
      subst sigma
      exact ⟨fun e => absurd (e ▸ here) inner, fun e => absurd (e ▸ here) final⟩
    · exact Iff.rfl
  rw [← Text.occursIn_map fixes, Text.map_plainSigma_lowercaseText, Text.occursIn_map fixes]

/-- A text is searched as if each of its characters were lowered on its own. -/
theorem mentionsFailure_eq (text : String) :
    mentionsFailure text =
      phrases.any (fun p => Text.occursIn p.toList (Text.lowercase text.toList)) := by
  rw [mentionsFailure, Bool.eq_iff_iff, List.any_eq_true, List.any_eq_true]
  apply exists_congr
  intro p
  apply and_congr_right
  intro mem
  rw [occursIn_lowercaseText mem]

end StreamRelay.Resolution
