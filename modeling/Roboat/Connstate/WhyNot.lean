import Mathlib.Data.List.Sort
import Roboat.Connstate.Evidence

/-! # Why a route was not taken

`normalizeWhyNot` cleans up what a caller says against each route. The reasons under one key become
a sorted set (`cleanStrings`), and they are assigned to the key without its surrounding space. Keys
that differ in this space only meet in one entry of the result, where an assignment replaces the
one before: the reasons under the key that the `range` reaches last are kept, the others are lost
(`lookup_normalizeWhyNot`). Go does not say which key that is. -/

open scoped List

namespace Roboat.Connstate

/-! ## Sorted sets of texts -/

section CleanStrings

variable {out values : List Str} {r : Str}

/-- What the loop of `cleanStrings` has collected. -/
theorem mem_cleanStringsLoop :
    r ∈ cleanStringsLoop out values ↔ r ∈ out ∨ (r ≠ [] ∧ ∃ v ∈ values, trimSpace v = r) := by
  induction values generalizing out with
  | nil => simp [cleanStringsLoop]
  | cons v values ih =>
    simp only [cleanStringsLoop, List.mem_cons, exists_eq_or_imp]
    split_ifs with hblank hseen
    · have hnot : ¬ (r ≠ [] ∧ trimSpace v = r) := fun h => h.1 (h.2 ▸ hblank)
      rw [ih]
      tauto
    · have hold : trimSpace v = r → r ∈ out := fun h => h ▸ hseen
      rw [ih]
      tauto
    · have hnew : trimSpace v = r → r ≠ [] := fun h => h ▸ hblank
      rw [ih, List.mem_append, List.mem_singleton, eq_comm (a := r)]
      tauto

/-- The cleaned reasons have no duplicates. -/
theorem nodup_cleanStringsLoop (h : out.Nodup) : (cleanStringsLoop out values).Nodup := by
  induction values generalizing out with
  | nil => exact h
  | cons v values ih =>
    simp only [cleanStringsLoop]
    split_ifs with hblank hseen
    · exact ih h
    · exact ih h
    · refine ih (h.append (List.nodup_singleton _) ?_)
      rw [List.disjoint_singleton]
      exact hseen

/-- **`cleanStrings` keeps the non-blank texts**, without surrounding space. -/
theorem mem_cleanStrings : r ∈ cleanStrings values ↔ r ≠ [] ∧ ∃ v ∈ values, trimSpace v = r := by
  simp [cleanStrings, mem_cleanStringsLoop]

/-- **`cleanStrings` is sorted and has no duplicates.** -/
theorem sortedLT_cleanStrings (values : List Str) : (cleanStrings values).SortedLT := by
  refine List.sortedLE_mergeSort.sortedLT_of_nodup ?_
  rw [(List.mergeSort_perm _ _).nodup_iff]
  exact nodup_cleanStringsLoop List.nodup_nil

end CleanStrings

/-! ## The last assignment -/

section Lookup

variable {entries out : List (Str × List Str)} {route key : Str}

/-- Other keys are still there when one is taken out. -/
theorem lookup_filter_ne (hne : route ≠ key) :
    (out.filter fun e => e.1 ≠ key).lookup route = out.lookup route := by
  induction out with
  | nil => rfl
  | cons e out ih =>
    rw [List.filter_cons]
    split_ifs with hkey
    · rw [List.lookup_cons, List.lookup_cons, ih]
    · have heq : e.1 = key := by simpa using hkey
      rw [ih, List.lookup_cons, heq, beq_false_of_ne hne]

/-- An assignment to a map, as the map sees it. -/
theorem lookup_setEntry (reasons : List Str) :
    (setEntry out key reasons).lookup route
      = if route = key then some reasons else out.lookup route := by
  rw [setEntry, List.lookup_append]
  split_ifs with hroute
  · have hnone : (out.filter fun e => e.1 ≠ key).lookup route = none := by
      rw [List.lookup_eq_none_iff]
      intro e he
      have hne : e.1 ≠ key := by simpa using (List.mem_filter.mp he).2
      rw [hroute]
      exact bne_iff_ne.mpr (Ne.symm hne)
    rw [hnone, Option.none_or, hroute]
    exact List.lookup_cons_self
  · rw [lookup_filter_ne hroute, List.lookup_cons, beq_false_of_ne hroute]
    exact Option.or_none

/-- What an entry assigns to a route. -/
def assigned (route : Str) (e : Str × List Str) : Option (List Str) :=
  if route ≠ [] ∧ trimSpace e.1 = route ∧ cleanStrings e.2 ≠ [] then some (cleanStrings e.2)
  else none

/-- When an entry sets the reasons of a route. -/
theorem assigned_eq_some {e : Str × List Str} {reasons : List Str} :
    assigned route e = some reasons ↔
      (route ≠ [] ∧ trimSpace e.1 = route ∧ cleanStrings e.2 ≠ []) ∧
        cleanStrings e.2 = reasons := by
  simp [assigned, Option.ite_none_right_eq_some]

/-- One turn of the loop. -/
theorem lookup_normalizeWhyNot_append (entries : List (Str × List Str)) (e : Str × List Str)
    (route : Str) :
    (normalizeWhyNot (entries ++ [e])).lookup route
      = (assigned route e).or ((normalizeWhyNot entries).lookup route) := by
  have hturn : normalizeWhyNot (entries ++ [e]) =
      if trimSpace e.1 = [] then normalizeWhyNot entries
      else if cleanStrings e.2 = [] then normalizeWhyNot entries
      else setEntry (normalizeWhyNot entries) (trimSpace e.1) (cleanStrings e.2) := by
    simp [normalizeWhyNot, List.foldl_append]
  rw [hturn]
  split_ifs with hblank hclean
  · have hnone : assigned route e = none := if_neg fun h => h.1 (h.2.1 ▸ hblank)
    rw [hnone, Option.none_or]
  · have hnone : assigned route e = none := if_neg fun h => h.2.2 hclean
    rw [hnone, Option.none_or]
  · rw [lookup_setEntry]
    split_ifs with hroute
    · have hsome : assigned route e = some (cleanStrings e.2) :=
        if_pos ⟨hroute ▸ hblank, hroute.symm, hclean⟩
      rw [hsome, Option.some_or]
    · have hnone : assigned route e = none := if_neg fun h => hroute h.2.1.symm
      rw [hnone, Option.none_or]

/-- **The last assignment to a route stays.** -/
theorem lookup_normalizeWhyNot (entries : List (Str × List Str)) (route : Str) :
    (normalizeWhyNot entries).lookup route = (entries.filterMap (assigned route)).getLast? := by
  induction entries using List.reverseRecOn with
  | nil => rfl
  | append_singleton entries e ih =>
    rw [lookup_normalizeWhyNot_append, ih, List.filterMap_append, List.getLast?_append]
    cases h : assigned route e <;> simp [h]

end Lookup

/-! ## Iteration orders -/

/-- A map from routes to reasons, with its entries in the order of one iteration. -/
structure RouteReasons where
  entries : List (Str × List Str)
  nodup : (entries.map Prod.fst).Nodup

namespace RouteReasons

/-- A key that trims to `route` has the reason `r`, up to surrounding space. -/
def Gives (m : RouteReasons) (route r : Str) : Prop :=
  r ≠ [] ∧ ∃ e ∈ m.entries, trimSpace e.1 = route ∧ ∃ v ∈ e.2, trimSpace v = r

/-- The result is the same in every iteration order. -/
def OrderIndependent (m : RouteReasons) : Prop :=
  ∀ order, order ~ m.entries → ∀ route,
    (normalizeWhyNot order).lookup route = (normalizeWhyNot m.entries).lookup route

/-- In every iteration order, a route gets all its reasons, as a sorted set; a route without
reasons is absent. -/
def Lossless (m : RouteReasons) : Prop :=
  ∀ order, order ~ m.entries → ∀ route, route ≠ [] → trimSpace route = route →
    ∃ reasons : List Str, reasons.SortedLT ∧ (∀ r, r ∈ reasons ↔ m.Gives route r) ∧
      (normalizeWhyNot order).lookup route = if reasons = [] then none else some reasons

/-- **The condition**: keys that trim to the same route have the same reasons, or none. -/
def Agrees (m : RouteReasons) : Prop :=
  ∀ e ∈ m.entries, ∀ f ∈ m.entries, trimSpace e.1 = trimSpace f.1 → trimSpace e.1 ≠ [] →
    cleanStrings e.2 = [] ∨ cleanStrings f.2 = [] ∨ cleanStrings e.2 = cleanStrings f.2

variable {m : RouteReasons} {route r : Str}

theorem gives_iff : m.Gives route r ↔
    ∃ e ∈ m.entries, trimSpace e.1 = route ∧ r ∈ cleanStrings e.2 := by
  simp only [Gives, mem_cleanStrings]
  tauto

/-- Under the condition, the last reasons are all there are. -/
theorem Agrees.lossless (h : m.Agrees) : m.Lossless := by
  intro order horder route hroute _
  rw [lookup_normalizeWhyNot]
  cases hlast : (order.filterMap (assigned route)).getLast? with
  | none =>
    refine ⟨[], List.Pairwise.nil.sortedLT, fun r => ?_, rfl⟩
    rw [List.getLast?_eq_none_iff, List.filterMap_eq_nil_iff] at hlast
    refine iff_of_false List.not_mem_nil fun hgives => ?_
    obtain ⟨e, he, hkey, hr⟩ := gives_iff.mp hgives
    have hsome : assigned route e = some (cleanStrings e.2) :=
      if_pos ⟨hroute, hkey, List.ne_nil_of_mem hr⟩
    rw [hlast e (horder.mem_iff.mpr he)] at hsome
    cases hsome
  | some reasons =>
    obtain ⟨e, he, hassigned⟩ := List.mem_filterMap.mp (List.mem_of_getLast? hlast)
    obtain ⟨⟨-, hkey, hclean⟩, rfl⟩ := assigned_eq_some.mp hassigned
    refine ⟨_, sortedLT_cleanStrings e.2, fun r => ?_, (if_neg hclean).symm⟩
    rw [gives_iff]
    refine ⟨fun hr => ⟨e, horder.mem_iff.mp he, hkey, hr⟩, fun ⟨f, hf, hkey', hr⟩ => ?_⟩
    have hagrees := h e (horder.mem_iff.mp he) f hf (hkey.trans hkey'.symm) (hkey ▸ hroute)
    rcases hagrees with hnone | hnone | hsame
    · exact absurd hnone hclean
    · exact absurd hnone (List.ne_nil_of_mem hr)
    · rw [hsame]
      exact hr

/-- A sorted set of reasons leaves the order no choice. -/
theorem Lossless.orderIndependent (h : m.Lossless) : m.OrderIndependent := by
  intro order horder route
  by_cases hroute : route ≠ [] ∧ trimSpace route = route
  · obtain ⟨reasons, hsorted, hmem, hlookup⟩ := h order horder route hroute.1 hroute.2
    obtain ⟨reasons', hsorted', hmem', hlookup'⟩ :=
      h m.entries (.refl _) route hroute.1 hroute.2
    have hsame : reasons = reasons' :=
      hsorted.eq_of_mem_iff hsorted' fun r => (hmem r).trans (hmem' r).symm
    rw [hlookup, hlookup', hsame]
  · -- nothing is ever assigned to such a route
    have hnone : ∀ e, assigned route e = none := fun e =>
      if_neg fun hassigned => hroute ⟨hassigned.1, by rw [← hassigned.2.1, trimSpace_trimSpace]⟩
    have hempty : ∀ entries, (normalizeWhyNot entries).lookup route = none := by
      intro entries
      rw [lookup_normalizeWhyNot, List.getLast?_eq_none_iff, List.filterMap_eq_nil_iff]
      exact fun e _ => hnone e
    rw [hempty, hempty]

/-- In some iteration order an entry comes last. -/
theorem exists_order {e : Str × List Str} (he : e ∈ m.entries)
    (hassigned : assigned route e = some (cleanStrings e.2)) :
    ∃ order, order ~ m.entries ∧
      (normalizeWhyNot order).lookup route = some (cleanStrings e.2) := by
  refine ⟨m.entries.erase e ++ [e], ?_, ?_⟩
  · exact (List.perm_append_singleton e _).trans (List.perm_cons_erase he).symm
  · rw [lookup_normalizeWhyNot_append, hassigned, Option.some_or]

/-- Where the keys do not agree, the order matters. -/
theorem OrderIndependent.agrees (h : m.OrderIndependent) : m.Agrees := by
  intro e he f hf hkey hblank
  by_cases hclean : cleanStrings e.2 = []
  · exact Or.inl hclean
  by_cases hclean' : cleanStrings f.2 = []
  · exact Or.inr (Or.inl hclean')
  -- each of the two may come last
  obtain ⟨order, horder, hlast⟩ := exists_order he (if_pos ⟨hblank, rfl, hclean⟩)
  obtain ⟨order', horder', hlast'⟩ := exists_order hf (if_pos ⟨hblank, hkey.symm, hclean'⟩)
  have hsame := (h order horder (trimSpace e.1)).trans (h order' horder' (trimSpace e.1)).symm
  rw [hlast, hlast'] at hsame
  exact Or.inr (Or.inr (Option.some.inj hsame))

end RouteReasons

/-- **When nothing is lost.** For every map from routes to reasons: `normalizeWhyNot` gives the same
result in every iteration order, and in each of them every route has exactly the sorted set of the
non-blank reasons under all the keys that trim to it, if and only if keys that trim to the same
route have the same reasons or none. -/
theorem normalizeWhyNot_iff (m : RouteReasons) : m.OrderIndependent ∧ m.Lossless ↔ m.Agrees := by
  constructor
  · rintro ⟨hindependent, -⟩
    exact hindependent.agrees
  · intro hagrees
    exact ⟨hagrees.lossless.orderIndependent, hagrees.lossless⟩

/-- Two keys for one route, one of them without a reason that is more than space. -/
def blankReason : RouteReasons where
  entries := [(['l', 'a', 'n'], [['b'], [' ', 'a'], ['b']]), (['l', 'a', 'n', ' '], [[' ']]),
    (['w', 'a', 'n'], [['a']])]
  nodup := by decide

theorem normalizeWhyNot_blankReason :
    blankReason.Agrees ∧ blankReason.OrderIndependent ∧ blankReason.Lossless := by
  have hblank : cleanStrings [[' ']] = [] := by
    have htrim : trimSpace [' '] = [] := by decide
    simp [cleanStrings, cleanStringsLoop, htrim]
  have hlan : trimSpace ['l', 'a', 'n'] ≠ trimSpace ['w', 'a', 'n'] := by decide
  have hlan' : trimSpace ['l', 'a', 'n', ' '] ≠ trimSpace ['w', 'a', 'n'] := by decide
  have hagrees : blankReason.Agrees := by
    simp [RouteReasons.Agrees, blankReason, hblank, hlan, hlan', hlan.symm]
  exact ⟨hagrees, (normalizeWhyNot_iff blankReason).mpr hagrees⟩

/-- Two keys for one route, with a reason each. -/
def spacedKeys : RouteReasons where
  entries := [(['l', 'a', 'n'], [['a']]), (['l', 'a', 'n', ' '], [['b']])]
  nodup := by decide

/-- Only one of the two reasons is kept, and which one depends on the iteration. -/
theorem spacedKeys_loses :
    (normalizeWhyNot spacedKeys.entries).lookup ['l', 'a', 'n'] = some [['b']] ∧
      (normalizeWhyNot spacedKeys.entries.reverse).lookup ['l', 'a', 'n'] = some [['a']] ∧
      ¬ spacedKeys.OrderIndependent ∧ ¬ spacedKeys.Lossless := by
  -- an entry that comes second is the one that stays
  have hsecond : ∀ (e : Str × List Str) (key : Str) (c : Char), trimSpace key = ['l', 'a', 'n'] →
      trimSpace [c] = [c] →
      (normalizeWhyNot [e, (key, [[c]])]).lookup ['l', 'a', 'n'] = some [[c]] := by
    intro e key c hkey hreason
    have hclean : cleanStrings [[c]] = [[c]] := by
      simp [cleanStrings, cleanStringsLoop, hreason]
    have hassigned : assigned ['l', 'a', 'n'] (key, [[c]]) = some [[c]] := by
      simp [assigned, hkey, hclean]
    have hturn := lookup_normalizeWhyNot_append [e] (key, [[c]]) ['l', 'a', 'n']
    rw [hassigned] at hturn
    exact hturn
  have hlast := hsecond (['l', 'a', 'n'], [['a']]) ['l', 'a', 'n', ' '] 'b' (by decide) (by decide)
  have hfirst := hsecond (['l', 'a', 'n', ' '], [['b']]) ['l', 'a', 'n'] 'a' (by decide) (by decide)
  have hdepends : ¬ spacedKeys.OrderIndependent := by
    intro h
    have hsame := h _ (List.reverse_perm _) ['l', 'a', 'n']
    cases hfirst.symm.trans (hsame.trans hlast)
  exact ⟨hlast, hfirst, hdepends, fun h => hdepends h.orderIndependent⟩

end Roboat.Connstate
