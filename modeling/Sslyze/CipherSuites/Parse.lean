import Sslyze.CipherSuites.SetLoop

/-!
# `_parse_all_cipher_suites`: the catalog builder

The program, statement by statement:

* `Nassl` -- the one capability taken from nassl: the OpenSSL names a legacy or a modern client
  reports for a version and a cipher string;
* `toCipherSuite` and the three loop bodies -- the translation of one OpenSSL name;
* `parseIteration` -- one pass of the outer loop over the four legacy versions. The TLS 1.2 and
  TLS 1.3 blocks are indented inside that loop in the source, so they run once per pass;
* `parseAllCipherSuites` -- the outer loop, a `foldlM` in `Option` (`none` is a `KeyError` leaving
  the function, which then returns no dict at all).

Section 4 relates it to the flat builder that builds every version once
(`buildCatalog`): one step lemma for a pass (`parseIteration_eq_some_iff`), the run lemmas over any
list of versions (`foldlM_parseIteration_eq_none_iff`, `foldlM_parseIteration_runInv`), and from
them `parseAllCipherSuites_eq_buildCatalog`. Section 5 runs the six builds one after another in
any order, as their independence allows, and shows every such order returns what the nested loop returns
(`buildInOrder_eq_parseAllCipherSuites`).
-/

namespace Sslyze.CipherSuites

/-! ## 1. The engine -/

/-- What the module takes from nassl: for a protocol version and a cipher string, the OpenSSL names
    `get_cipher_list()` returns after `set_cipher_list(s)`, for a `LegacySslClient` (`legacy`) and
    for an `SslClient` (`modern`). `OpenSslVersionEnum(tls_version.value)` names the same
    version. -/
structure Nassl where
  legacy : TlsVersionEnum → String → List String
  modern : TlsVersionEnum → String → List String

/-- The cipher string both clients are given: every suite except the PSK and SRP ones. -/
def cipherList : String := "ALL:COMPLEMENTOFALL:-PSK:-SRP"

/-- `_parse_all_cipher_suites_with_legacy_openssl`: `set(ssl_client.get_cipher_list())`. -/
def parseAllCipherSuitesWithLegacyOpenssl (o : Nassl) (tlsVersion : TlsVersionEnum) :
    Finset String :=
  (o.legacy tlsVersion cipherList).toFinset

/-- `cipher_suites_from_modern_openssl` (lines 603-605): the modern client, asked for TLS 1.2. -/
def cipherSuitesFromModernOpenssl (o : Nassl) : Finset String :=
  (o.modern .TLS_1_2 cipherList).toFinset

/-! ## 2. One OpenSSL name -/

/-- The record built for the OpenSSL name `n` at version `v` (lines 590-597 and 615-622). `none` is
    the `KeyError` of `_OPENSSL_TO_RFC_NAMES_MAPPING[v]`, of `[n]`, or of the key-size lookup. -/
def toCipherSuite (v : TlsVersionEnum) (n : String) : Option CipherSuite := do
  let names ← opensslToRfcNamesMapping v
  let rfcName ← names.lookup n
  let keySize ← rfcNameToKeySizeMapping.lookup rfcName
  pure { name := rfcName, opensslName := n, isAnonymous := isAnon rfcName, keySize := keySize }

/-- The body of the loop over a legacy version's names (lines 589-598). -/
def legacyLoopBody (v : TlsVersionEnum) : LoopBody := fun n => some <$> toCipherSuite v n

/-- The body of the TLS 1.2 loop (lines 610-623): a TLS 1.3 name is skipped by `continue`. -/
def tls12LoopBody : LoopBody := fun n =>
  if n ∈ tls13CipherSuites then some none else some <$> toCipherSuite .TLS_1_2 n

/-- The record the TLS 1.3 set comprehension builds for a name of the list (lines 627-633): the
    OpenSSL name is the RFC name, and no TLS 1.3 suite is anonymous. -/
def tls13CipherSuite (n : String) : Option CipherSuite :=
  (rfcNameToKeySizeMapping.lookup n).map fun keySize => ⟨n, n, false, keySize⟩

/-- The body of the TLS 1.3 set comprehension (lines 626-635). -/
def tls13LoopBody : LoopBody := fun n => some <$> tls13CipherSuite n

section Bodies

variable {v : TlsVersionEnum} {n : String} {c : CipherSuite}

@[simp] theorem legacyLoopBody_eq_none_iff : legacyLoopBody v n = none ↔ toCipherSuite v n = none := by
  simp [legacyLoopBody]

@[simp] theorem legacyLoopBody_eq_some_some :
    legacyLoopBody v n = some (some c) ↔ toCipherSuite v n = some c := by
  simp [legacyLoopBody]

@[simp] theorem tls12LoopBody_eq_none_iff :
    tls12LoopBody n = none ↔ n ∉ tls13CipherSuites ∧ toCipherSuite .TLS_1_2 n = none := by
  by_cases h : n ∈ tls13CipherSuites <;> simp [tls12LoopBody, h]

@[simp] theorem tls12LoopBody_eq_some_some :
    tls12LoopBody n = some (some c) ↔ n ∉ tls13CipherSuites ∧ toCipherSuite .TLS_1_2 n = some c := by
  by_cases h : n ∈ tls13CipherSuites <;> simp [tls12LoopBody, h]

theorem tls12LoopBody_of_mem (h : n ∈ tls13CipherSuites) : tls12LoopBody n = some none := by
  simp [tls12LoopBody, h]

@[simp] theorem tls13LoopBody_eq_none_iff :
    tls13LoopBody n = none ↔ rfcNameToKeySizeMapping.lookup n = none := by
  simp [tls13LoopBody, tls13CipherSuite]

@[simp] theorem tls13LoopBody_eq_some_some :
    tls13LoopBody n = some (some c) ↔ tls13CipherSuite n = some c := by
  simp [tls13LoopBody]

theorem tls13CipherSuite_eq_some_iff :
    tls13CipherSuite n = some c ↔
      ∃ keySize, rfcNameToKeySizeMapping.lookup n = some keySize ∧ c = ⟨n, n, false, keySize⟩ := by
  rcases h : rfcNameToKeySizeMapping.lookup n with _ | k <;> simp [tls13CipherSuite, h, eq_comm]

end Bodies

/-! ## 3. The builder -/

/-- `Dict[TlsVersionEnum, Set[CipherSuite]]`, `none` where the dict has no key. -/
abbrev Catalog := TlsVersionEnum → Option (Finset CipherSuite)

/-- The set the loop over a legacy version's names builds. -/
def legacyEntry (o : Nassl) (v : TlsVersionEnum) : Option (Finset CipherSuite) :=
  forEach (legacyLoopBody v) (parseAllCipherSuitesWithLegacyOpenssl o v)

/-- The set the TLS 1.2 loop builds, over the union of what both clients report. -/
def tls12Entry (o : Nassl) : Option (Finset CipherSuite) :=
  forEach tls12LoopBody
    (parseAllCipherSuitesWithLegacyOpenssl o .TLS_1_2 ∪ cipherSuitesFromModernOpenssl o)

/-- The hardcoded TLS 1.3 set. A comprehension over the list builds the set a loop over its
    elements builds. -/
def tls13Entry : Option (Finset CipherSuite) :=
  forEach tls13LoopBody tls13CipherSuites.toFinset

section Entries

variable {o : Nassl} {v : TlsVersionEnum} {s : Finset CipherSuite} {c : CipherSuite}

theorem legacyEntry_eq_none_iff :
    legacyEntry o v = none ↔
      ∃ n ∈ parseAllCipherSuitesWithLegacyOpenssl o v, toCipherSuite v n = none := by
  simp [legacyEntry, forEach_eq_none_iff]

theorem mem_legacyEntry (h : legacyEntry o v = some s) :
    c ∈ s ↔ ∃ n ∈ parseAllCipherSuitesWithLegacyOpenssl o v, toCipherSuite v n = some c := by
  simp [mem_of_forEach h]

theorem tls12Entry_eq_none_iff :
    tls12Entry o = none ↔
      ∃ n ∈ parseAllCipherSuitesWithLegacyOpenssl o .TLS_1_2 ∪ cipherSuitesFromModernOpenssl o,
        n ∉ tls13CipherSuites ∧ toCipherSuite .TLS_1_2 n = none := by
  simp [tls12Entry, forEach_eq_none_iff]

theorem mem_tls12Entry (h : tls12Entry o = some s) :
    c ∈ s ↔ ∃ n ∈ parseAllCipherSuitesWithLegacyOpenssl o .TLS_1_2 ∪ cipherSuitesFromModernOpenssl o,
      n ∉ tls13CipherSuites ∧ toCipherSuite .TLS_1_2 n = some c := by
  simp only [mem_of_forEach h, tls12LoopBody_eq_some_some]

/-- The hardcoded TLS 1.3 block never raises. -/
theorem tls13Entry_ne_none : tls13Entry ≠ none := by
  rw [tls13Entry, forEach_ne_none_iff]
  intro t ht
  simpa [← Option.isSome_iff_ne_none] using tls13CipherSuites_keySize t (List.mem_toFinset.mp ht)

theorem mem_tls13Entry (h : tls13Entry = some s) :
    c ∈ s ↔ ∃ t ∈ tls13CipherSuites, ∃ keySize, rfcNameToKeySizeMapping.lookup t = some keySize ∧
      c = ⟨t, t, false, keySize⟩ := by
  simp [mem_of_forEach h, tls13CipherSuite_eq_some_iff]

end Entries

/-- One pass of the outer loop, for `tls_version = v`. The source stores `set()` and adds to it in
    place; a `KeyError` leaves the function with the dict, so storing the finished set is the
    same. -/
def parseIteration (o : Nassl) (d : Catalog) (v : TlsVersionEnum) : Option Catalog := do
  let s ← legacyEntry o v
  let d := Function.update d v (some s)
  let s₁₂ ← tls12Entry o
  let d := Function.update d .TLS_1_2 (some s₁₂)
  let s₁₃ ← tls13Entry
  pure (Function.update d .TLS_1_3 (some s₁₃))

/-- The versions the outer loop runs over (lines 581-586). -/
def legacyVersions : List TlsVersionEnum := [.SSL_2_0, .SSL_3_0, .TLS_1_0, .TLS_1_1]

/-- `_parse_all_cipher_suites`, from the empty dict. -/
def parseAllCipherSuites (o : Nassl) : Option Catalog :=
  legacyVersions.foldlM (parseIteration o) fun _ => none

/-! ## 4. The nested loop builds each version once -/

/-- One version at a time: the set the catalog should hold for `v`. -/
def catalogEntry (o : Nassl) : TlsVersionEnum → Option (Finset CipherSuite)
  | .TLS_1_2 => tls12Entry o
  | .TLS_1_3 => tls13Entry
  | v => legacyEntry o v

/-- The flat builder: every version's set built once; a `KeyError` anywhere means no catalog. -/
def buildCatalog (o : Nassl) : Option Catalog :=
  if ∀ v, catalogEntry o v ≠ none then some (catalogEntry o) else none

section Run

variable {o : Nassl} {d d' : Catalog} {v : TlsVersionEnum}

theorem catalogEntry_of_ne (h₁₂ : v ≠ .TLS_1_2) (h₁₃ : v ≠ .TLS_1_3) :
    catalogEntry o v = legacyEntry o v := by
  cases v <;> simp_all [catalogEntry]

/-- **Everything one pass of the outer loop does.** -/
theorem parseIteration_eq_some_iff :
    parseIteration o d v = some d' ↔ ∃ a b c, legacyEntry o v = some a ∧ tls12Entry o = some b ∧
      tls13Entry = some c ∧ d' = Function.update (Function.update (Function.update d v (some a))
        .TLS_1_2 (some b)) .TLS_1_3 (some c) := by
  rcases ha : legacyEntry o v with _ | a <;> rcases hb : tls12Entry o with _ | b <;>
    rcases hc : tls13Entry with _ | c <;> simp [parseIteration, ha, hb, hc, eq_comm]

theorem parseIteration_eq_none_iff :
    parseIteration o d v = none ↔
      legacyEntry o v = none ∨ tls12Entry o = none ∨ tls13Entry = none := by
  rcases ha : legacyEntry o v with _ | a <;> rcases hb : tls12Entry o with _ | b <;>
    rcases hc : tls13Entry with _ | c <;> simp [parseIteration, ha, hb, hc]

/-- **The outer loop raises** exactly when a legacy version it runs over raises, or when it runs at
    all and the TLS 1.2 or TLS 1.3 block raises. -/
theorem foldlM_parseIteration_eq_none_iff (vs : List TlsVersionEnum) (d : Catalog) :
    vs.foldlM (parseIteration o) d = none ↔ (∃ v ∈ vs, legacyEntry o v = none) ∨
      (vs ≠ [] ∧ (tls12Entry o = none ∨ tls13Entry = none)) := by
  induction vs generalizing d with
  | nil => simp
  | cons v vs ih =>
    rw [List.foldlM_cons]
    rcases h : parseIteration o d v with _ | d₁
    · rw [parseIteration_eq_none_iff] at h
      refine iff_of_true rfl ?_
      rcases h with h | h
      · exact .inl ⟨v, List.mem_cons_self v vs, h⟩
      · exact .inr ⟨List.cons_ne_nil v vs, h⟩
    · obtain ⟨a, b, c, ha, hb, hc, -⟩ := parseIteration_eq_some_iff.mp h
      simp [ih, ha, hb, hc]

/-- The invariant of the outer loop after it ran over `vs` from `d`: every version it stored holds
    its `catalogEntry`, every other version is as in `d`. -/
def RunInv (o : Nassl) (vs : List TlsVersionEnum) (d d' : Catalog) : Prop :=
  ∀ w, d' w = if w ∈ vs ∨ (vs ≠ [] ∧ (w = .TLS_1_2 ∨ w = .TLS_1_3)) then catalogEntry o w else d w

/-- One pass stores `v`, TLS 1.2 and TLS 1.3. -/
theorem parseIteration_runInv (h : parseIteration o d v = some d') : RunInv o [v] d d' := by
  obtain ⟨a, b, c, ha, hb, hc, rfl⟩ := parseIteration_eq_some_iff.mp h
  intro w
  by_cases h₁₃ : w = .TLS_1_3
  · subst h₁₃; simp [catalogEntry, hc]
  by_cases h₁₂ : w = .TLS_1_2
  · subst h₁₂; simp [catalogEntry, hb]
  by_cases hv : w = v
  · subst hv; simp [Function.update_noteq h₁₃, Function.update_noteq h₁₂, catalogEntry_of_ne h₁₂ h₁₃, ha]
  · simp [Function.update_noteq, h₁₃, h₁₂, hv]

/-- **The run lemma of the outer loop.** -/
theorem foldlM_parseIteration_runInv (vs : List TlsVersionEnum) (d : Catalog)
    (h : vs.foldlM (parseIteration o) d = some d') : RunInv o vs d d' := by
  induction vs generalizing d with
  | nil =>
    cases h
    intro w
    simp
  | cons v vs ih =>
    rw [List.foldlM_cons] at h
    obtain ⟨d₁, h₁, hrest⟩ := Option.bind_eq_some.mp h
    intro w
    rw [ih d₁ hrest w, parseIteration_runInv h₁ w]
    -- `v :: vs` stores what `[v]` stores and what `vs` stores
    split_ifs <;> simp_all

theorem mem_legacyVersions_or {w : TlsVersionEnum} :
    w ∈ legacyVersions ∨ w = .TLS_1_2 ∨ w = .TLS_1_3 := by
  cases w <;> decide

theorem ne_of_mem_legacyVersions (h : v ∈ legacyVersions) : v ≠ .TLS_1_2 ∧ v ≠ .TLS_1_3 := by
  revert h
  cases v <;> decide

/-- **Every version is stored** by the end of the outer loop, and holds its `catalogEntry`. -/
theorem parseAllCipherSuites_apply {C : Catalog} (h : parseAllCipherSuites o = some C)
    (w : TlsVersionEnum) : C w = catalogEntry o w := by
  rw [foldlM_parseIteration_runInv _ _ h w, if_pos]
  rcases mem_legacyVersions_or (w := w) with hw | hw
  · exact .inl hw
  · exact .inr ⟨List.cons_ne_nil _ _, hw⟩

theorem parseAllCipherSuites_eq_none_iff :
    parseAllCipherSuites o = none ↔ (∃ v ∈ legacyVersions, legacyEntry o v = none) ∨
      tls12Entry o = none ∨ tls13Entry = none := by
  have hne : legacyVersions ≠ [] := List.cons_ne_nil _ _
  rw [parseAllCipherSuites, foldlM_parseIteration_eq_none_iff, and_iff_right hne]

/-- When the build returns, no version's set raised. -/
theorem catalogEntry_ne_none (h : parseAllCipherSuites o ≠ none) (w : TlsVersionEnum) :
    catalogEntry o w ≠ none := by
  rw [Ne, parseAllCipherSuites_eq_none_iff] at h
  push_neg at h
  rcases mem_legacyVersions_or (w := w) with hw | rfl | rfl
  · obtain ⟨h₁₂, h₁₃⟩ := ne_of_mem_legacyVersions hw
    rw [catalogEntry_of_ne h₁₂ h₁₃]
    exact h.1 w hw
  · exact h.2.1
  · exact h.2.2

theorem parseAllCipherSuites_eq_none_iff_exists :
    parseAllCipherSuites o = none ↔ ∃ w, catalogEntry o w = none := by
  refine ⟨fun h => ?_, fun ⟨w, hw⟩ => by_contra fun h => catalogEntry_ne_none h w hw⟩
  rcases parseAllCipherSuites_eq_none_iff.mp h with ⟨v, hmem, hv⟩ | hv | hv
  · obtain ⟨h₁₂, h₁₃⟩ := ne_of_mem_legacyVersions hmem
    exact ⟨v, by rw [catalogEntry_of_ne h₁₂ h₁₃, hv]⟩
  · exact ⟨.TLS_1_2, hv⟩
  · exact ⟨.TLS_1_3, hv⟩

/-- The build's outcome is fixed by when it raises and by what it stores: any outcome that raises
    exactly when some version's set raises, and otherwise stores every version's `catalogEntry`, is
    the build's. -/
theorem eq_parseAllCipherSuites {O : Option Catalog}
    (hnone : O = none ↔ ∃ w, catalogEntry o w = none)
    (hsome : ∀ C, O = some C → ∀ w, C w = catalogEntry o w) : O = parseAllCipherSuites o := by
  rcases hO : O with _ | C
  · exact (parseAllCipherSuites_eq_none_iff_exists.mpr (hnone.mp hO)).symm
  · have hne : parseAllCipherSuites o ≠ none := fun hp => by
      simpa [hO] using hnone.mpr (parseAllCipherSuites_eq_none_iff_exists.mp hp)
    obtain ⟨C', hC'⟩ := Option.ne_none_iff_exists'.mp hne
    rw [hC', funext (hsome C hO), funext (parseAllCipherSuites_apply hC')]

/-- The outcome depends on the engine only through the version sets it leads to. -/
theorem parseAllCipherSuites_congr {o' : Nassl} (h : ∀ w, catalogEntry o' w = catalogEntry o w) :
    parseAllCipherSuites o' = parseAllCipherSuites o :=
  eq_parseAllCipherSuites (by simp only [parseAllCipherSuites_eq_none_iff_exists, h])
    fun _ hC w => (parseAllCipherSuites_apply hC w).trans (h w)

/-- **Refinement**: the nested loop of `_parse_all_cipher_suites`, which rebuilds the TLS 1.2 and
    TLS 1.3 sets on every pass, returns what the flat builder returns. -/
theorem parseAllCipherSuites_eq_buildCatalog (o : Nassl) :
    parseAllCipherSuites o = buildCatalog o := by
  unfold buildCatalog
  split_ifs with hall
  · exact Eq.symm (eq_parseAllCipherSuites ⟨nofun, fun ⟨w, hw⟩ => absurd hw (hall w)⟩
      fun _ h _ => by cases h; rfl)
  · push_neg at hall
    exact parseAllCipherSuites_eq_none_iff_exists.mpr hall

end Run

/-! ## 5. The six builds in any order -/

/-- The six builds are independent, so they may run in any order: build `v`'s set and store it;
    a `KeyError` stops the run. -/
def storeEntry (o : Nassl) (d : Catalog) (v : TlsVersionEnum) : Option Catalog :=
  (catalogEntry o v).map fun s => Function.update d v (some s)

/-- The builds run one after another in the order `vs`, from the empty dict. -/
def buildInOrder (o : Nassl) (vs : List TlsVersionEnum) : Option Catalog :=
  vs.foldlM (storeEntry o) fun _ => none

section Orders

variable {o : Nassl}

theorem foldlM_storeEntry_eq_none_iff (vs : List TlsVersionEnum) (d : Catalog) :
    vs.foldlM (storeEntry o) d = none ↔ ∃ v ∈ vs, catalogEntry o v = none := by
  induction vs generalizing d with
  | nil => simp
  | cons v vs ih =>
    rcases h : catalogEntry o v with _ | s <;> simp [storeEntry, h, ih]

/-- **The run lemma of an order**: the versions it ran over hold their `catalogEntry`, the others
    are as they were. -/
theorem foldlM_storeEntry_apply (vs : List TlsVersionEnum) (d : Catalog) {C : Catalog}
    (h : vs.foldlM (storeEntry o) d = some C) (w : TlsVersionEnum) :
    C w = if w ∈ vs then catalogEntry o w else d w := by
  induction vs generalizing d with
  | nil =>
    cases h
    simp
  | cons v vs ih =>
    rw [List.foldlM_cons] at h
    obtain ⟨d₁, h₁, hrest⟩ := Option.bind_eq_some.mp h
    obtain ⟨s, hs, rfl⟩ := Option.map_eq_some'.mp h₁
    rw [ih _ hrest]
    by_cases hw : w = v
    · subst hw
      simp [hs]
    · simp [hw]

end Orders

/-- **Any order of the builds gives the code's outcome.** Running the builds one after another over
    a list that names every version -- in any order, some versions built more than once -- returns
    what the nested loop of `_parse_all_cipher_suites` returns, `KeyError` or catalog. -/
theorem buildInOrder_eq_parseAllCipherSuites (o : Nassl) (vs : List TlsVersionEnum)
    (hvs : ∀ v, v ∈ vs) : buildInOrder o vs = parseAllCipherSuites o :=
  eq_parseAllCipherSuites (by simp [buildInOrder, foldlM_storeEntry_eq_none_iff, hvs])
    fun _ h w => by rw [foldlM_storeEntry_apply vs _ h w, if_pos (hvs w)]

/-- From TLS 1.3 down to SSL 2.0, TLS 1.2 built twice, on an engine that reports nothing. -/
theorem buildInOrder_eq_parseAllCipherSuites_reversed :
    buildInOrder ⟨fun _ _ => [], fun _ _ => []⟩
        [.TLS_1_3, .TLS_1_2, .TLS_1_1, .TLS_1_0, .SSL_3_0, .SSL_2_0, .TLS_1_2] =
      parseAllCipherSuites ⟨fun _ _ => [], fun _ _ => []⟩ :=
  buildInOrder_eq_parseAllCipherSuites _ _ fun v => by cases v <;> decide

end Sslyze.CipherSuites
