/- Module: Polykit/Wire/Push
   generality: I
   source: crates/polybase/src/sync/push.rs
   digest: How the PostgREST push path reads a reply to an upsert and to a tombstone update. -/

import Polykit.Errors
import Polykit.Wire.Http

set_option autoImplicit false
set_option relaxedAutoImplicit false

namespace Polykit.Wire.Push

open Contract Errors Http Lib.Text

def permanentPushErrorPatterns : List String :=
  ["version regression", "is immutable", "same-version mutation", "undelete requires version",
    "string is too long for tsvector", "value too long", "violates check constraint",
    "violates not-null constraint", "violates unique constraint", "invalid input syntax"]

def isPermanentPushErrorMessage (message : String) : Bool :=
  let lower := toAsciiLowercase message
  permanentPushErrorPatterns.any (fun pattern => contains lower pattern)

def classifyPushErrorMessage (table message : String) : PushError :=
  if isPermanentPushErrorMessage message then .permanent table message
  else .transient table message

def failureMessage (status : StatusCode) (body : String) : String :=
  "HTTP " ++ toString status.asU16 ++ ": " ++ body

/-- The end of `Pusher::upsert`: the same-version test comes before the classification. -/
def upsertResult (table : String) : Reply → Except PolyError Unit
  | .failed error => .error (.http error)
  | .responded status body =>
      if status.isSuccess then .ok ()
      else if isSameVersionMutationMessage (bodyOrDefault body) then
        .error (.push (.sameVersionMutationIgnored table))
      else
        .error (.push (classifyPushErrorMessage table
          (failureMessage status (bodyOrDefault body))))

/-- The end of `Pusher::update_tombstone`, which makes no same-version test. -/
def updateTombstoneResult (table : String) : Reply → Except PolyError Unit
  | .failed error => .error (.http error)
  | .responded status body =>
      if status.isSuccess then .ok ()
      else
        .error (.push (classifyPushErrorMessage table
          (failureMessage status (bodyOrDefault body))))

theorem isPermanentPushErrorMessage_iff (message : String) :
    isPermanentPushErrorMessage message = true ↔
      ∃ pattern ∈ permanentPushErrorPatterns,
        contains (toAsciiLowercase message) pattern = true := by
  simp [isPermanentPushErrorMessage, List.any_eq_true]

theorem mem_statusLine {status : StatusCode} {c : Char}
    (member : c ∈ (toAsciiLowercase ("HTTP " ++ toString status.asU16 ++ ": ")).toList) :
    c ∈ "http :".toList ∨ c.isDigit = true := by
  have front : (toAsciiLowercase "HTTP ").toList = "http ".toList := by decide
  have back : (toAsciiLowercase ": ").toList = ": ".toList := by decide
  have digits : ∀ d ∈ (toString status.asU16).toList, d.toLower.isDigit = true := by
    intro d inside
    rw [Nat.toString_eq_repr, Nat.toList_repr] at inside
    have digit := Nat.isDigit_of_mem_toDigits (by decide) (by decide) inside
    have small : ¬ (d.val ≥ 'A'.val ∧ d.val ≤ 'Z'.val) := by
      simp only [Char.isDigit, Bool.and_eq_true, decide_eq_true_eq] at digit
      grind
    unfold Char.toLower
    rwa [dif_neg small]
  rw [toAsciiLowercase_append, toAsciiLowercase_append, String.toList_append,
    String.toList_append, front, back, toList_toAsciiLowercase] at member
  simp only [List.mem_append, List.mem_map] at member
  have letters : ∀ d ∈ "http ".toList, d ∈ "http :".toList := by simp
  have colons : ∀ d ∈ ": ".toList, d ∈ "http :".toList := by simp
  rcases member with (letter | ⟨d, inside, rfl⟩) | colon
  · exact .inl (letters c letter)
  · exact .inr (digits d inside)
  · exact .inl (colons c colon)

theorem contains_failureMessage {pattern : String} (member : pattern ∈ permanentPushErrorPatterns)
    (status : StatusCode) (body : String) :
    contains (toAsciiLowercase (failureMessage status body)) pattern =
      contains (toAsciiLowercase body) pattern := by
  have begins : ∃ c rest, pattern.toList = c :: rest ∧ c ∈ ['v', 'i', 's', 'u'] := by
    simp only [permanentPushErrorPatterns, List.mem_cons, List.not_mem_nil, or_false] at member
    rcases member with rfl | rfl | rfl | rfl | rfl | rfl | rfl | rfl | rfl | rfl <;>
      exact ⟨_, _, rfl, by decide⟩
  obtain ⟨c, rest, shape, letter⟩ := begins
  have absent : c ∉ (toAsciiLowercase ("HTTP " ++ toString status.asU16 ++ ": ")).toList := by
    intro inside
    have letters : ∀ c ∈ ['v', 'i', 's', 'u'],
        ¬ (c ∈ "http :".toList ∨ c.isDigit = true) := by simp
    exact letters c letter (mem_statusLine inside)
  unfold failureMessage contains
  rw [toAsciiLowercase_append, String.toList_append, shape, decide_eq_decide]
  exact infix_append_iff absent

theorem isPermanentPushErrorMessage_failureMessage_eq (status : StatusCode) (body : String) :
    isPermanentPushErrorMessage (failureMessage status body) =
      isPermanentPushErrorMessage body := by
  rw [Bool.eq_iff_iff, isPermanentPushErrorMessage_iff, isPermanentPushErrorMessage_iff]
  refine exists_congr (fun pattern => and_congr_right (fun member => ?_))
  rw [contains_failureMessage member]

/-- Every marker the contract names is one of the permanent patterns. -/
theorem isPermanentPushErrorMessage_of_marker {message : String}
    (h : isSameVersionMutationMessage message = true ∨
      isVersionRegressionMessage message = true) :
    isPermanentPushErrorMessage message = true := by
  rw [isPermanentPushErrorMessage_iff]
  rcases h with same | regression
  · exact ⟨sameVersionMutationMarker, by decide, same⟩
  · exact ⟨versionRegressionMarker, by decide, regression⟩

end Polykit.Wire.Push
