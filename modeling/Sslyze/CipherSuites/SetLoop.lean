import Sslyze.CipherSuites.Tables

/-!
# A `for` loop over a Python set that fills a set of records

Both translation loops of `_parse_all_cipher_suites` have one shape: start from `set()`, and for
each name of a Python set either raise a `KeyError`, `continue`, or `add` a record. `LoopBody` says
what one pass does with a name, `forEach` runs it over a `Finset`.

Python iterates a set in an order the program does not fix (string hashes are salted per
process). The loop is therefore the fold over the set's multiset, `Multiset.foldr`, which exists
because two passes commute (`addStep_left_comm`): every order gives the same outcome. Which missing
key a `KeyError` names does depend on the order, and the model records only that one is raised.

* `forEach_eq_none_iff` -- the loop raises exactly when the pass over some name raises;
* `mem_of_forEach` -- otherwise the set holds exactly the records the passes add;
* `forEach_union_of_skip` -- names that every pass skips change nothing;
* `forEachInOrder_eq_forEach` -- the passes run one after another, in any order of the names, end
  as the fold does.
-/

namespace Sslyze.CipherSuites

/-! ## 1. One pass -/

/-- What one pass of a loop body does with a name: raise a `KeyError` (`none`), `continue`
    (`some none`), or add a record to the set (`some (some c)`). -/
abbrev LoopBody := String → Option (Option CipherSuite)

/-- The pass over `n` after the passes that built `acc`; once raised, a `KeyError` stays raised. -/
def addStep (body : LoopBody) (n : String) :
    Option (Finset CipherSuite) → Option (Finset CipherSuite)
  | some s =>
    match body n with
    | some (some c) => some (insert c s)
    | some none => some s
    | none => none
  | none => none

section Step

variable {body : LoopBody} {n : String} {acc : Option (Finset CipherSuite)}
  {t : Finset CipherSuite}

@[simp] theorem addStep_none : addStep body n none = none := rfl

theorem addStep_eq_none_iff : addStep body n acc = none ↔ acc = none ∨ body n = none := by
  rcases acc with _ | s
  · simp
  · rcases h : body n with _ | _ | c <;> simp [addStep, h]

/-- **Everything one pass can do**, when it does not raise. -/
theorem addStep_eq_some_iff :
    addStep body n acc = some t ↔
      ∃ s, acc = some s ∧ (body n = some none ∧ t = s ∨ ∃ c, body n = some (some c) ∧ t = insert c s) := by
  rcases acc with _ | s
  · simp
  · rcases h : body n with _ | _ | c <;> simp [addStep, h, eq_comm]

/-- A skipped name leaves the loop's state as it was. -/
theorem addStep_of_skip (h : body n = some none) (acc : Option (Finset CipherSuite)) :
    addStep body n acc = acc := by
  rcases acc with _ | s <;> simp [addStep, h]

/-- Two passes commute: the fold over a set does not depend on the order of its names. -/
theorem addStep_left_comm (a b : String) (acc : Option (Finset CipherSuite)) :
    addStep body a (addStep body b acc) = addStep body b (addStep body a acc) := by
  rcases acc with _ | s
  · rfl
  · rcases ha : body a with _ | _ | c <;> rcases hb : body b with _ | _ | d <;>
      simp [addStep, ha, hb, Finset.Insert.comm]

instance (body : LoopBody) : LeftCommutative (addStep body) := ⟨addStep_left_comm⟩

end Step

/-! ## 2. The whole loop -/

/-- `result = set()` followed by `for n in names:` with the loop body `body`, `names` a Python set. -/
def forEach (body : LoopBody) (names : Finset String) : Option (Finset CipherSuite) :=
  names.val.foldr (addStep body) (some ∅)

section Loop

variable {body : LoopBody} {names : Finset String} {t : Finset CipherSuite}

@[simp] theorem forEach_empty : forEach body ∅ = some ∅ := rfl

theorem forEach_insert {a : String} (ha : a ∉ names) :
    forEach body (insert a names) = addStep body a (forEach body names) := by
  simp only [forEach, Finset.insert_val_of_not_mem ha, Multiset.foldr_cons]

/-- **The loop raises exactly when the pass over some name raises.** -/
theorem forEach_eq_none_iff : forEach body names = none ↔ ∃ n ∈ names, body n = none := by
  induction names using Finset.induction_on with
  | empty => simp
  | @insert a s ha ih =>
    rw [forEach_insert ha, addStep_eq_none_iff, ih, Finset.exists_mem_insert, or_comm]

/-- **What the loop builds**: the records the passes add, one for each name that is not skipped. -/
theorem mem_of_forEach (h : forEach body names = some t) (c : CipherSuite) :
    c ∈ t ↔ ∃ n ∈ names, body n = some (some c) := by
  induction names using Finset.induction_on generalizing t with
  | empty =>
    cases h
    simp
  | @insert a s ha ih =>
    rw [forEach_insert ha, addStep_eq_some_iff] at h
    obtain ⟨t₀, h₀, ⟨hskip, rfl⟩ | ⟨c₀, hadd, rfl⟩⟩ := h
    · rw [ih h₀, Finset.exists_mem_insert, hskip]
      simp
    · rw [Finset.mem_insert, ih h₀, Finset.exists_mem_insert, hadd]
      simp [eq_comm]

theorem forEach_ne_none_iff : forEach body names ≠ none ↔ ∀ n ∈ names, body n ≠ none := by
  simp [forEach_eq_none_iff]

/-- More names: a loop that raised still raises. -/
theorem forEach_eq_none_of_subset {N : Finset String} (hN : names ⊆ N)
    (h : forEach body names = none) : forEach body N = none := by
  obtain ⟨n, hn, hb⟩ := forEach_eq_none_iff.mp h
  exact forEach_eq_none_iff.mpr ⟨n, hN hn, hb⟩

/-- More names: a loop that returned returns a larger set, if it returns. -/
theorem forEach_subset {N : Finset String} {t' : Finset CipherSuite} (hN : names ⊆ N)
    (h : forEach body names = some t) (h' : forEach body N = some t') : t ⊆ t' := fun c hc => by
  obtain ⟨n, hn, hb⟩ := (mem_of_forEach h c).mp hc
  exact (mem_of_forEach h' c).mpr ⟨n, hN hn, hb⟩

/-- Adding names that every pass skips does not change the loop's outcome. -/
theorem forEach_union_of_skip {X : Finset String} (hX : ∀ x ∈ X, body x = some none) :
    forEach body (names ∪ X) = forEach body names := by
  induction X using Finset.induction_on with
  | empty => simp
  | @insert a X ha ih =>
    have hskip := hX a (Finset.mem_insert_self a X)
    rw [Finset.union_insert, ← ih fun x hx => hX x (Finset.mem_insert_of_mem hx)]
    by_cases hmem : a ∈ names ∪ X
    · rw [Finset.insert_eq_of_mem hmem]
    · rw [forEach_insert hmem, addStep_of_skip hskip]

end Loop

/-! ## 3. Every iteration order -/

/-- The loop as the source runs it, over one iteration order `l` of the set's names: the passes
    one after another, from `set()`. -/
def forEachInOrder (body : LoopBody) (l : List String) : Option (Finset CipherSuite) :=
  l.foldl (fun acc n => addStep body n acc) (some ∅)

/-- **The loop's outcome does not depend on the iteration order**: run over any order of a set's
    names, it ends as `forEach` does. -/
theorem forEachInOrder_eq_forEach (body : LoopBody) (l : List String) (hl : l.Nodup) :
    forEachInOrder body l = forEach body l.toFinset := by
  rw [forEach, List.toFinset_val, hl.dedup, Multiset.coe_foldr_swap]
  rfl

/-- A loop that adds `b` and raises at `a`, run in the order `b`, `a`. -/
theorem forEachInOrder_eq_forEach_ba : ["b", "a"].Nodup ∧
    forEachInOrder (fun n => if n = "a" then none else some (some ⟨n, n, false, 0⟩)) ["b", "a"] =
      forEach (fun n => if n = "a" then none else some (some ⟨n, n, false, 0⟩))
        ["b", "a"].toFinset :=
  ⟨by decide, forEachInOrder_eq_forEach _ _ (by decide)⟩

end Sslyze.CipherSuites
