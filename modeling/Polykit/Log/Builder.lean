/- Module: Polykit/Log/Builder
   generality: I
   source: crates/polylog/src/builder.rs
   digest: Per-target levels: the last call for the longest matching prefix decides. -/

import Mathlib.Tactic
import Polykit.Lib.Utf8
import Polykit.Log.Level

set_option autoImplicit false
set_option relaxedAutoImplicit false

namespace Polykit.Log.Builder

open Polykit.Lib.Utf8

/-- Prefixes and targets are module paths. -/
structure TargetOverride where
  targetPrefix : String
  level : Level
  deriving DecidableEq

structure LogBuilder where
  level : Level
  format : FormatMode
  color : ColorMode
  logFile : Option String
  targetOverrides : List TargetOverride
  stripTargetPrefix : Option String

def LogBuilder.default : LogBuilder where
  level := .info
  format := .normal
  color := .auto
  logFile := none
  targetOverrides := []
  stripTargetPrefix := none

/-- The first override of the prefix gets the level; where there is none, one is pushed. -/
def setLevel (targetPrefix : String) (level : Level) : List TargetOverride → List TargetOverride
  | [] => [⟨targetPrefix, level⟩]
  | existing :: rest =>
      if existing.targetPrefix = targetPrefix then { existing with level := level } :: rest
      else existing :: setLevel targetPrefix level rest

def LogBuilder.targetLevel (b : LogBuilder) (targetPrefix : String) (level : Level) :
    LogBuilder :=
  { b with targetOverrides := setLevel targetPrefix level b.targetOverrides }

structure LogConfig where
  level : Level
  format : FormatMode
  color : ColorMode
  logFile : Option String
  targetOverrides : List TargetOverride
  stripTargetPrefix : Option String

/-- The length of a prefix, in bytes. -/
def TargetOverride.len (o : TargetOverride) : Nat := byteLen o.targetPrefix.toList

/-- The sort's comparison: `Reverse` of the length. -/
def notShorter (a b : TargetOverride) : Bool := decide (b.len ≤ a.len)

/-- A stable sort, the longest prefix first. -/
def LogConfig.from (b : LogBuilder) : LogConfig where
  level := b.level
  format := b.format
  color := b.color
  logFile := b.logFile
  targetOverrides := b.targetOverrides.mergeSort notShorter
  stripTargetPrefix := b.stripTargetPrefix

def targetMatches (target targetPrefix : String) : Bool :=
  if target = targetPrefix then true
  else
    let prefixLen := byteLen targetPrefix.toList
    decide (byteLen target.toList > prefixLen + 1) &&
      getRange (asBytes target.toList) 0 prefixLen == some (asBytes targetPrefix.toList) &&
      getRange (asBytes target.toList) prefixLen (prefixLen + 2) == some (asBytes "::".toList)

def effectiveMinLevel (target : String) (overrides : List TargetOverride) (global : Level) :
    Level :=
  match overrides with
  | [] => global
  | entry :: rest =>
      if targetMatches target entry.targetPrefix then entry.level
      else effectiveMinLevel target rest global

/-! What a prefix matches. -/

/-- The target is the prefix, or goes on behind it with two colons. -/
def Matches (target targetPrefix : String) : Prop :=
  target = targetPrefix ∨ targetPrefix.toList ++ "::".toList <+: target.toList

/-- The comparison of bytes is the comparison of paths. -/
theorem targetMatches_iff {target targetPrefix : String} :
    targetMatches target targetPrefix = true ↔ Matches target targetPrefix := by
  have colons : byteLen "::".toList = 2 := by decide
  unfold targetMatches Matches
  split
  · rename_i same
    exact iff_of_true rfl (.inl same)
  · rename_i different
    rw [or_iff_right different]
    simp only [Bool.and_eq_true, decide_eq_true_eq, beq_iff_eq]
    constructor
    · rintro ⟨⟨longer, front⟩, behind⟩
      have within : byteLen targetPrefix.toList + 2 ≤ (asBytes target.toList).length := by
        rw [length_asBytes]
        omega
      have bound : byteLen targetPrefix.toList ≤ (asBytes target.toList).length := by omega
      simp only [getRange, Nat.zero_le, bound, Nat.le_add_right, within, and_self, if_true,
        Option.some.injEq, List.drop_zero, Nat.sub_zero, Nat.add_sub_cancel_left] at front behind
      apply asBytes_prefix_iff.mp
      rw [asBytes_append, ← front, ← behind, ← List.take_add]
      exact List.take_prefix _ _
    · rintro ⟨rest, joined⟩
      have size : byteLen target.toList =
          byteLen targetPrefix.toList + (2 + byteLen rest) := by
        rw [← joined, byteLen_append, byteLen_append, colons, Nat.add_assoc]
      have bytes : asBytes target.toList =
          asBytes targetPrefix.toList ++ (asBytes "::".toList ++ asBytes rest) := by
        rw [← joined, asBytes_append, asBytes_append, List.append_assoc]
      have front : byteLen targetPrefix.toList = (asBytes targetPrefix.toList).length := by simp
      have middle : 2 = (asBytes "::".toList).length := by decide
      refine ⟨⟨by omega, ?_⟩, ?_⟩
      · rw [getRange, if_pos ⟨Nat.zero_le _, by rw [length_asBytes]; omega⟩, bytes,
          List.drop_zero, Nat.sub_zero, front, List.take_left]
      · rw [getRange, if_pos ⟨by omega, by rw [length_asBytes]; omega⟩, bytes,
          Nat.add_sub_cancel_left, front, List.drop_left]
        nth_rewrite 1 [middle]
        rw [List.take_left]

theorem Matches.begins {target targetPrefix : String} (h : Matches target targetPrefix) :
    targetPrefix.toList <+: target.toList := by
  rcases h with rfl | longer
  · exact List.prefix_rfl
  · exact (List.prefix_append _ _).trans longer

theorem Matches.eq_of_len {target p q : String} (first : Matches target p)
    (second : Matches target q) (same : byteLen p.toList = byteLen q.toList) : p = q :=
  String.toList_injective (eq_of_byteLen_eq first.begins second.begins same)

/-! A sequence of calls of the builder. -/

/-- The calls of `target_level`, the first one first. -/
abbrev Calls := List (String × Level)

def LogBuilder.after (calls : Calls) : LogBuilder :=
  calls.foldl (fun b call => b.targetLevel call.1 call.2) LogBuilder.default

def lastLevel (calls : Calls) (targetPrefix : String) : Option Level :=
  ((calls.filter (fun call => call.1 == targetPrefix)).getLast?).map Prod.snd

/-- The overrides of a builder after some calls: one for each prefix, with its last level. -/
structure Represents (overrides : List TargetOverride) (calls : Calls) : Prop where
  distinct : (overrides.map TargetOverride.targetPrefix).Nodup
  latest : ∀ p level, ⟨p, level⟩ ∈ overrides ↔ lastLevel calls p = some level

theorem mem_setLevel {p : String} {level : Level} {overrides : List TargetOverride}
    (distinct : (overrides.map TargetOverride.targetPrefix).Nodup) (o : TargetOverride) :
    o ∈ setLevel p level overrides ↔
      if o.targetPrefix = p then o.level = level else o ∈ overrides := by
  induction overrides with
  | nil =>
    cases o
    simp only [setLevel, List.mem_singleton, TargetOverride.mk.injEq, List.not_mem_nil]
    split <;> simp_all
  | cons existing rest ih =>
    rw [List.map_cons, List.nodup_cons] at distinct
    have later := ih distinct.2
    have elsewhere : ∀ o ∈ rest, o.targetPrefix ≠ existing.targetPrefix := fun o member same =>
      distinct.1 (same ▸ List.mem_map_of_mem member)
    cases o with
    | mk q l =>
      cases existing with
      | mk e k =>
        simp only [setLevel]
        split
        · rename_i found
          obtain rfl : e = p := found
          by_cases same : q = e
          · subst same
            have out : ∀ l, (⟨q, l⟩ : TargetOverride) ∉ rest := fun l member =>
              elsewhere _ member rfl
            simp [out]
          · simp [same]
        · rename_i other
          simp only [List.mem_cons, TargetOverride.mk.injEq, later]
          split
          · rename_i same
            obtain rfl : q = p := same
            simp [Ne.symm other]
          · rfl

theorem map_setLevel (p : String) (level : Level) (overrides : List TargetOverride) :
    (setLevel p level overrides).map TargetOverride.targetPrefix =
      if p ∈ overrides.map TargetOverride.targetPrefix then
        overrides.map TargetOverride.targetPrefix
      else overrides.map TargetOverride.targetPrefix ++ [p] := by
  induction overrides with
  | nil => rfl
  | cons existing rest ih =>
    rw [setLevel]
    by_cases found : existing.targetPrefix = p
    · simp [found]
    · rw [if_neg found, List.map_cons, ih]
      simp only [List.map_cons, List.mem_cons, Ne.symm found, false_or]
      split <;> rfl

theorem lastLevel_append (calls : Calls) (p q : String) (level : Level) :
    lastLevel (calls ++ [(p, level)]) q = if q = p then some level else lastLevel calls q := by
  unfold lastLevel
  by_cases same : q = p
  · subst same
    simp
  · simp [same, Ne.symm same]

theorem Represents.targetLevel {overrides : List TargetOverride} {calls : Calls}
    (h : Represents overrides calls) (p : String) (level : Level) :
    Represents (setLevel p level overrides) (calls ++ [(p, level)]) where
  distinct := by
    rw [map_setLevel]
    split
    · exact h.distinct
    · rename_i fresh
      exact List.nodup_append.mpr ⟨h.distinct, List.nodup_singleton p, by
        rintro a member b last rfl
        exact fresh (List.mem_singleton.mp last ▸ member)⟩
  latest q l := by
    rw [mem_setLevel h.distinct, lastLevel_append]
    split
    · simp [eq_comm]
    · exact h.latest q l

theorem represents_after (calls : Calls) :
    Represents (LogBuilder.after calls).targetOverrides calls := by
  induction calls using List.reverseRecOn with
  | nil => exact ⟨List.nodup_nil, by simp [LogBuilder.after, LogBuilder.default, lastLevel]⟩
  | append_singleton calls call ih =>
    rw [LogBuilder.after, List.foldl_append]
    exact ih.targetLevel call.1 call.2

/-! The sorted overrides. -/

theorem sorted_from (b : LogBuilder) :
    (LogConfig.from b).targetOverrides.Perm b.targetOverrides ∧
      (LogConfig.from b).targetOverrides.Pairwise (fun a b => b.len ≤ a.len) := by
  have trans : ∀ a b c, notShorter a b = true → notShorter b c = true → notShorter a c = true := by
    intro a b c
    simp only [notShorter, decide_eq_true_eq]
    omega
  have total : ∀ a b, (notShorter a b || notShorter b a) = true := by
    intro a b
    simp only [notShorter, Bool.or_eq_true, decide_eq_true_eq]
    omega
  have sorted := List.pairwise_mergeSort trans total b.targetOverrides
  exact ⟨List.mergeSort_perm _ _, sorted.imp of_decide_eq_true⟩

theorem effectiveMinLevel_cases (target : String) (overrides : List TargetOverride)
    (global : Level) :
    (effectiveMinLevel target overrides global = global ∧
      ∀ o ∈ overrides, ¬ Matches target o.targetPrefix) ∨
    ∃ front entry back, overrides = front ++ entry :: back ∧
      effectiveMinLevel target overrides global = entry.level ∧
      Matches target entry.targetPrefix ∧ ∀ o ∈ front, ¬ Matches target o.targetPrefix := by
  induction overrides with
  | nil => exact .inl ⟨rfl, by simp⟩
  | cons entry rest ih =>
    rw [effectiveMinLevel]
    split
    · rename_i found
      exact .inr ⟨[], entry, rest, rfl, rfl, targetMatches_iff.mp found, by simp⟩
    · rename_i passed
      rw [targetMatches_iff] at passed
      rcases ih with ⟨result, none⟩ | ⟨front, found, back, rfl, result, matched, none⟩
      · exact .inl ⟨result, List.forall_mem_cons.mpr ⟨passed, none⟩⟩
      · exact .inr ⟨entry :: front, found, back, rfl, result, matched,
          List.forall_mem_cons.mpr ⟨passed, none⟩⟩

/-- The prefix is the longest of those given that match, and the level the last for it. -/
structure MostSpecific (calls : Calls) (target p : String) (level : Level) : Prop where
  latest : lastLevel calls p = some level
  matched : Matches target p
  longest : ∀ call ∈ calls, Matches target call.1 → byteLen call.1.toList ≤ byteLen p.toList

theorem mem_of_lastLevel {calls : Calls} {p : String} {level : Level}
    (h : lastLevel calls p = some level) : (p, level) ∈ calls := by
  obtain ⟨call, last, rfl⟩ := Option.map_eq_some_iff.mp h
  have member := List.mem_filter.mp (List.mem_of_getLast? last)
  obtain rfl : call.1 = p := by simpa using member.2
  exact member.1

theorem exists_lastLevel {calls : Calls} {call : String × Level} (h : call ∈ calls) :
    ∃ level, lastLevel calls call.1 = some level := by
  have some : calls.filter (fun other => other.1 == call.1) ≠ [] :=
    List.ne_nil_of_mem (List.mem_filter.mpr ⟨h, by simp⟩)
  obtain ⟨last, found⟩ := Option.ne_none_iff_exists'.mp (mt List.getLast?_eq_none_iff.mp some)
  exact ⟨last.2, by rw [lastLevel, found]; rfl⟩

theorem MostSpecific.unique {calls : Calls} {target p q : String} {level level' : Level}
    (first : MostSpecific calls target p level) (second : MostSpecific calls target q level') :
    level = level' := by
  have same := first.matched.eq_of_len second.matched (le_antisymm
    (second.longest _ (mem_of_lastLevel first.latest) first.matched)
    (first.longest _ (mem_of_lastLevel second.latest) second.matched))
  subst same
  exact Option.some.inj (first.latest.symm.trans second.latest)

/-- The overrides of the configuration that a sequence of calls leads to. -/
def configured (calls : Calls) : List TargetOverride :=
  (LogConfig.from (LogBuilder.after calls)).targetOverrides

theorem effectiveMinLevel_configured (calls : Calls) (target : String) (global : Level) :
    (effectiveMinLevel target (configured calls) global = global ∧
      ∀ call ∈ calls, ¬ Matches target call.1) ∨
    ∃ p level, MostSpecific calls target p level ∧
      effectiveMinLevel target (configured calls) global = level := by
  obtain ⟨perm, sorted⟩ := sorted_from (LogBuilder.after calls)
  have kept : ∀ p level, ⟨p, level⟩ ∈ configured calls ↔ lastLevel calls p = some level :=
    fun p level => perm.mem_iff.trans ((represents_after calls).latest p level)
  have given : ∀ call ∈ calls, ∃ o ∈ configured calls, o.targetPrefix = call.1 := by
    intro call member
    obtain ⟨level, latest⟩ := exists_lastLevel member
    exact ⟨⟨call.1, level⟩, (kept _ _).mpr latest, rfl⟩
  rcases effectiveMinLevel_cases target (configured calls) global with
    ⟨result, none⟩ | ⟨front, entry, back, split, result, matched, none⟩
  · refine .inl ⟨result, fun call member matched => ?_⟩
    obtain ⟨o, there, same⟩ := given call member
    exact none o there (same ▸ matched)
  · have there : entry ∈ configured calls := by simp [split]
    refine .inr ⟨entry.targetPrefix, entry.level, ⟨(kept _ _).mp there, matched, ?_⟩, result⟩
    intro call member other
    obtain ⟨o, among, same⟩ := given call member
    rw [← same] at other ⊢
    rw [split] at among
    change (configured calls).Pairwise _ at sorted
    rw [split] at sorted
    have ordered := List.pairwise_append.mp sorted
    rcases List.mem_append.mp among with before | behind
    · exact absurd other (none o before)
    · rcases List.mem_cons.mp behind with rfl | later
      · exact le_rfl
      · exact (List.pairwise_cons.mp ordered.2.1).1 o later

theorem MostSpecific.of_filter_eq {calls calls' : Calls} {target p : String} {level : Level}
    (same : ∀ p, calls.filter (fun call => call.1 == p) = calls'.filter (fun call => call.1 == p))
    (h : MostSpecific calls target p level) : MostSpecific calls' target p level where
  latest := by
    rw [lastLevel, ← same]
    exact h.latest
  matched := h.matched
  longest call member matched := by
    have among : call ∈ calls'.filter (fun other => other.1 == call.1) :=
      List.mem_filter.mpr ⟨member, by simp⟩
    rw [← same] at among
    exact h.longest call (List.mem_of_mem_filter among) matched

/-- The last level given for the longest matching prefix decides, and the order of calls for
different prefixes does not matter. -/
theorem effectiveMinLevel_resolves (calls : Calls) (target : String) (global : Level) :
    ((effectiveMinLevel target (configured calls) global = global ∧
        ∀ call ∈ calls, ¬ Matches target call.1) ∨
      ∃ p level, MostSpecific calls target p level ∧
        effectiveMinLevel target (configured calls) global = level) ∧
    ∀ calls' : Calls,
      (∀ p, calls.filter (fun call => call.1 == p) = calls'.filter (fun call => call.1 == p)) →
      effectiveMinLevel target (configured calls') global =
        effectiveMinLevel target (configured calls) global := by
  refine ⟨effectiveMinLevel_configured calls target global, fun calls' same => ?_⟩
  rcases effectiveMinLevel_configured calls target global with
    ⟨result, none⟩ | ⟨p, level, specific, result⟩ <;>
  rcases effectiveMinLevel_configured calls' target global with
    ⟨result', none'⟩ | ⟨q, level', specific', result'⟩
  · rw [result, result']
  · exact absurd specific'.matched (none _ (mem_of_lastLevel
      (specific'.of_filter_eq fun p => (same p).symm).latest))
  · exact absurd specific.matched (none' _ (mem_of_lastLevel (specific.of_filter_eq same).latest))
  · rw [result, result']
    exact (specific.of_filter_eq same).unique specific' |>.symm

end Polykit.Log.Builder
