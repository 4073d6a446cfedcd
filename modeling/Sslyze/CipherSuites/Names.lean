import Sslyze.CipherSuites.Outcome

/-!
# Names in the catalog

A version's set holds one record per OpenSSL name that was translated, and Python deduplicates it
on whole records. So:

* `catalog_name_eq_iff` -- within a version's set the OpenSSL name is a key, and two records share
  an RFC name exactly when their OpenSSL names are the `EDH-` and `DHE-` spellings of one of the two
  3DES suites the TLS table names twice (`rfcNameAliases`); every other RFC name of the tables
  belongs to one OpenSSL name. An engine that reports both spellings gets two records with one name
  (`catalog_name_collision_aliasNassl`);
* `parseAllCipherSuites_tls13_names` -- TLS 1.3 names reported for TLS 1.2, by either client, change
  nothing, and no TLS 1.2 record carries a TLS 1.3 name, as OpenSSL name or as RFC name.
-/

namespace Sslyze.CipherSuites

/-! ## 1. A set built from names -/

section Keyed

variable {s : Finset CipherSuite} {N : Finset String} {f : String → Option CipherSuite}

/-- A set whose records are the translations `f n` of the names `n ∈ N`, each record keeping the
    name it was built from. -/
structure BuiltFrom (s : Finset CipherSuite) (N : Finset String) (f : String → Option CipherSuite) :
    Prop where
  mem : ∀ c, c ∈ s ↔ ∃ n ∈ N, f n = some c
  opensslName : ∀ n c, f n = some c → c.opensslName = n
  total : ∀ n ∈ N, f n ≠ none

theorem BuiltFrom.opensslName_injOn (h : BuiltFrom s N f) :
    Set.InjOn CipherSuite.opensslName ↑s := by
  intro c hc c' hc' he
  obtain ⟨n, -, hn⟩ := (h.mem c).mp hc
  obtain ⟨n', -, hn'⟩ := (h.mem c').mp hc'
  rw [h.opensslName n c hn, h.opensslName n' c' hn'] at he
  subst he
  exact Option.some.inj (hn.symm.trans hn')

end Keyed

/-! ## 2. The three kinds of versions -/

/-- The OpenSSL names whose translations make up a version's set: what the legacy client reports
    for a legacy version, the TLS 1.2 union without the TLS 1.3 names for TLS 1.2, the TLS 1.3 list
    for TLS 1.3. -/
def acceptedNames (o : Nassl) : TlsVersionEnum → Finset String
  | .TLS_1_2 =>
    (parseAllCipherSuitesWithLegacyOpenssl o .TLS_1_2 ∪ cipherSuitesFromModernOpenssl o).filter
      (· ∉ tls13CipherSuites)
  | .TLS_1_3 => tls13CipherSuites.toFinset
  | v => parseAllCipherSuitesWithLegacyOpenssl o v

section Versions

variable {o : Nassl} {v : TlsVersionEnum} {n : String} {c : CipherSuite} {s : Finset CipherSuite}

theorem toCipherSuite_opensslName (h : toCipherSuite v n = some c) : c.opensslName = n := by
  rcases hm : opensslToRfcNamesMapping v with _ | m
  · simp [toCipherSuite, hm] at h
  · obtain ⟨r, k, -, -, rfl⟩ := (toCipherSuite_eq_some_iff hm).mp h
    rfl

theorem acceptedNames_of_ne (h₁₂ : v ≠ .TLS_1_2) (h₁₃ : v ≠ .TLS_1_3) :
    acceptedNames o v = parseAllCipherSuitesWithLegacyOpenssl o v := by
  cases v <;> simp_all [acceptedNames]

theorem builtFrom_legacy (h₁₂ : v ≠ .TLS_1_2) (h₁₃ : v ≠ .TLS_1_3) (h : legacyEntry o v = some s) :
    BuiltFrom s (acceptedNames o v) (toCipherSuite v) where
  mem c := by rw [mem_legacyEntry h, acceptedNames_of_ne h₁₂ h₁₃]
  opensslName _ _ := toCipherSuite_opensslName
  total n hn hnone := by
    rw [acceptedNames_of_ne h₁₂ h₁₃] at hn
    exact Option.some_ne_none s (h.symm.trans (legacyEntry_eq_none_iff.mpr ⟨n, hn, hnone⟩))

theorem builtFrom_tls12 (h : tls12Entry o = some s) :
    BuiltFrom s (acceptedNames o .TLS_1_2) (toCipherSuite .TLS_1_2) where
  mem c := by
    simp [mem_tls12Entry h, acceptedNames, and_assoc]
  opensslName _ _ := toCipherSuite_opensslName
  total n hn hnone := by
    simp only [acceptedNames, Finset.mem_filter] at hn
    exact Option.some_ne_none s (h.symm.trans (tls12Entry_eq_none_iff.mpr ⟨n, hn.1, hn.2, hnone⟩))

theorem builtFrom_tls13 (h : tls13Entry = some s) :
    BuiltFrom s (acceptedNames o .TLS_1_3) tls13CipherSuite where
  mem c := by
    simp only [mem_tls13Entry h, acceptedNames, List.mem_toFinset, tls13CipherSuite_eq_some_iff]
  opensslName t c hc := by
    obtain ⟨k, -, rfl⟩ := tls13CipherSuite_eq_some_iff.mp hc
    rfl
  total t ht := by
    simpa [tls13CipherSuite, ← Option.isSome_iff_ne_none] using
      tls13CipherSuites_keySize t (List.mem_toFinset.mp ht)

end Versions

/-! ## 3. Two records with one RFC name -/

section Aliases

variable {v : TlsVersionEnum} {n n' t t' : String} {c c' : CipherSuite}

/-- Two records translated for one version share an RFC name exactly when they were built from the
    two spellings of a pair of `rfcNameAliases`. -/
theorem toCipherSuite_name_eq_iff (h : toCipherSuite v n = some c) (h' : toCipherSuite v n' = some c') :
    c ≠ c' ∧ c.name = c'.name ↔ (n, n') ∈ rfcNameAliases ∨ (n', n) ∈ rfcNameAliases := by
  have h₁₃ : v ≠ .TLS_1_3 := by rintro rfl; simp [toCipherSuite, opensslToRfcNamesMapping] at h
  obtain ⟨m, hm⟩ := opensslToRfcNamesMapping_of_ne h₁₃
  obtain ⟨r, k, hr, -, rfl⟩ := (toCipherSuite_eq_some_iff hm).mp h
  obtain ⟨r', k', hr', -, rfl⟩ := (toCipherSuite_eq_some_iff hm).mp h'
  by_cases h₂ : v = .SSL_2_0
  · -- the SSL 2.0 table gives each RFC name once, and has no alias
    subst h₂
    cases hm
    obtain ⟨hnd, hna⟩ := sslv2OpensslToRfcNamesMapping_rfcName_nodup
    refine iff_of_false (fun ⟨hne, hname⟩ => hne ?_) fun ha => ?_
    · cases List.inj_on_of_nodup_map hnd (lookup_mem hr) (lookup_mem hr') hname
      exact Option.some.inj (h.symm.trans h')
    · exact hna _ (lookup_mem hr) (mem_aliasNames_of_alias ha)
  · cases hm.symm.trans (opensslToRfcNamesMapping_of_tls h₂ h₁₃)
    constructor
    · rintro ⟨hne, hname⟩
      rcases tlsOpensslToRfcNamesMapping_rfcName_eq (lookup_mem hr) (lookup_mem hr') hname with
        hnn | ha
      · subst hnn
        exact absurd (Option.some.inj (h.symm.trans h')) hne
      · exact ha
    · intro ha
      -- both spellings are keys of the table, with one RFC name
      have hlook : tlsOpensslToRfcNamesMapping.lookup n = tlsOpensslToRfcNamesMapping.lookup n' ∧
          n ≠ n' := by
        rcases ha with ha | ha
        · exact rfcNameAliases_lookup ha
        · exact ⟨(rfcNameAliases_lookup ha).1.symm, (rfcNameAliases_lookup ha).2.symm⟩
      exact ⟨fun he => hlook.2 (congrArg CipherSuite.opensslName he),
        Option.some.inj (hr.symm.trans (hlook.1.trans hr'))⟩

/-- The hardcoded TLS 1.3 records never share an RFC name, and no TLS 1.3 name is an alias. -/
theorem tls13CipherSuite_name_eq_iff (ht : t ∈ tls13CipherSuites) (h : tls13CipherSuite t = some c)
    (h' : tls13CipherSuite t' = some c') :
    c ≠ c' ∧ c.name = c'.name ↔ (t, t') ∈ rfcNameAliases ∨ (t', t) ∈ rfcNameAliases := by
  obtain ⟨k, -, rfl⟩ := tls13CipherSuite_eq_some_iff.mp h
  obtain ⟨k', -, rfl⟩ := tls13CipherSuite_eq_some_iff.mp h'
  refine iff_of_false (fun ⟨hne, hname⟩ => hne ?_) fun ha => ?_
  · cases (hname : t = t')
    exact Option.some.inj (h.symm.trans h')
  · exact tls13CipherSuites_not_alias t ht (mem_aliasNames_of_alias ha)

end Aliases

/-- **Names in a version's set.** Whenever the build returns, no two records of a version's set
    share an OpenSSL name, and two distinct records share an RFC name exactly when their OpenSSL
    names are the `EDH-` and `DHE-` spellings of one suite of `rfcNameAliases`
    (`TLS_DHE_DSS_WITH_3DES_EDE_CBC_SHA` or `TLS_DHE_RSA_WITH_3DES_EDE_CBC_SHA`). Only the versions
    from SSL 3.0 to TLS 1.2, which share the TLS table, can hold both. -/
theorem catalog_name_eq_iff (o : Nassl) (C : Catalog) (hC : parseAllCipherSuites o = some C)
    (v : TlsVersionEnum) (s : Finset CipherSuite) (hs : C v = some s) :
    Set.InjOn CipherSuite.opensslName ↑s ∧ ∀ c ∈ s, ∀ c' ∈ s,
      (c ≠ c' ∧ c.name = c'.name ↔ (c.opensslName, c'.opensslName) ∈ rfcNameAliases ∨
        (c'.opensslName, c.opensslName) ∈ rfcNameAliases) := by
  rw [parseAllCipherSuites_apply hC] at hs
  -- each kind of version: the set's builder, and what two of its records can share
  obtain ⟨N, f, hb, hf⟩ : ∃ N f, BuiltFrom s N f ∧ ∀ n ∈ N, ∀ n' ∈ N, ∀ c c', f n = some c →
      f n' = some c' → (c ≠ c' ∧ c.name = c'.name ↔
        (n, n') ∈ rfcNameAliases ∨ (n', n) ∈ rfcNameAliases) := by
    rcases mem_legacyVersions_or (w := v) with hv | rfl | rfl
    · obtain ⟨h₁₂, h₁₃⟩ := ne_of_mem_legacyVersions hv
      rw [catalogEntry_of_ne h₁₂ h₁₃] at hs
      exact ⟨_, _, builtFrom_legacy h₁₂ h₁₃ hs, fun _ _ _ _ _ _ => toCipherSuite_name_eq_iff⟩
    · exact ⟨_, _, builtFrom_tls12 hs, fun _ _ _ _ _ _ => toCipherSuite_name_eq_iff⟩
    · exact ⟨_, _, builtFrom_tls13 (o := o) hs, fun _ ht _ _ _ _ =>
        tls13CipherSuite_name_eq_iff (List.mem_toFinset.mp ht)⟩
  refine ⟨hb.opensslName_injOn, fun c hc c' hc' => ?_⟩
  obtain ⟨n, hn, hfn⟩ := (hb.mem c).mp hc
  obtain ⟨n', hn', hfn'⟩ := (hb.mem c').mp hc'
  rw [hb.opensslName n c hfn, hb.opensslName n' c' hfn']
  exact hf n hn n' hn' c c' hfn hfn'

/-- The engine whose legacy client reports, for TLS 1.0, both spellings of the DHE-RSA 3DES suite:
    `EDH-` as older OpenSSL releases name it, `DHE-` as newer ones do. -/
def aliasNassl : Nassl :=
  ⟨fun v _ => if v = .TLS_1_0 then ["EDH-RSA-DES-CBC3-SHA", "DHE-RSA-DES-CBC3-SHA"] else [],
    fun _ _ => []⟩

theorem legacyEntry_aliasNassl : legacyEntry aliasNassl .TLS_1_0 =
    some {⟨"TLS_DHE_RSA_WITH_3DES_EDE_CBC_SHA", "EDH-RSA-DES-CBC3-SHA", false, 168⟩,
      ⟨"TLS_DHE_RSA_WITH_3DES_EDE_CBC_SHA", "DHE-RSA-DES-CBC3-SHA", false, 168⟩} := by
  decide

theorem parseAllCipherSuites_aliasNassl : ∃ C, parseAllCipherSuites aliasNassl = some C ∧
    C .TLS_1_0 = some {⟨"TLS_DHE_RSA_WITH_3DES_EDE_CBC_SHA", "EDH-RSA-DES-CBC3-SHA", false, 168⟩,
      ⟨"TLS_DHE_RSA_WITH_3DES_EDE_CBC_SHA", "DHE-RSA-DES-CBC3-SHA", false, 168⟩} := by
  have hne : parseAllCipherSuites aliasNassl ≠ none := by
    rw [Ne, parseAllCipherSuites_eq_none_iff]
    simp only [legacyVersions, List.mem_cons, List.mem_singleton, exists_eq_or_imp,
      exists_eq_left, legacyEntry_aliasNassl, tls13Entry_ne_none, List.not_mem_nil, or_false]
    decide
  obtain ⟨C, hC⟩ := Option.ne_none_iff_exists'.mp hne
  exact ⟨C, hC, (parseAllCipherSuites_apply hC _).trans legacyEntry_aliasNassl⟩

/-- On `aliasNassl` the build returns, and TLS 1.0 holds both spellings of one suite. -/
theorem catalog_name_eq_iff_aliasNassl : ∃ C s, parseAllCipherSuites aliasNassl = some C ∧
    C .TLS_1_0 = some s ∧ (Set.InjOn CipherSuite.opensslName ↑s ∧ ∀ c ∈ s, ∀ c' ∈ s,
      (c ≠ c' ∧ c.name = c'.name ↔ (c.opensslName, c'.opensslName) ∈ rfcNameAliases ∨
        (c'.opensslName, c.opensslName) ∈ rfcNameAliases)) := by
  obtain ⟨C, hC, hs⟩ := parseAllCipherSuites_aliasNassl
  exact ⟨C, _, hC, hs, catalog_name_eq_iff aliasNassl C hC .TLS_1_0 _ hs⟩

/-- **Two records with one RFC name**: on `aliasNassl` the TLS 1.0 set holds two distinct records
    named `TLS_DHE_RSA_WITH_3DES_EDE_CBC_SHA`. -/
theorem catalog_name_collision_aliasNassl : ∃ C, parseAllCipherSuites aliasNassl = some C ∧
    ∃ s, C .TLS_1_0 = some s ∧ ∃ c ∈ s, ∃ c' ∈ s, c ≠ c' ∧ c.name = c'.name := by
  obtain ⟨C, hC, hs⟩ := parseAllCipherSuites_aliasNassl
  exact ⟨C, hC, _, hs, _, Finset.mem_insert_self _ _, _,
    Finset.mem_insert_of_mem (Finset.mem_singleton_self _), by decide, rfl⟩

/-! ## 4. TLS 1.3 names and the TLS 1.2 set -/

/-- Adding TLS 1.3 names to the TLS 1.2 union leaves the TLS 1.2 loop's outcome as it was. -/
theorem forEach_tls12LoopBody_union {U X : Finset String} (hX : ∀ x ∈ X, x ∈ tls13CipherSuites) :
    forEach tls12LoopBody (U ∪ X) = forEach tls12LoopBody U :=
  forEach_union_of_skip fun x hx => tls12LoopBody_of_mem (hX x hx)

/-- **TLS 1.3 names do not reach the TLS 1.2 set.** (1) Adding TLS 1.3 names to what the legacy
    client, the modern client, or both report for TLS 1.2 does not change the outcome; (2) whenever
    the build returns, no TLS 1.2 record has a TLS 1.3 name as OpenSSL name or as RFC name, so the
    TLS 1.2 and TLS 1.3 sets share no RFC name. -/
theorem parseAllCipherSuites_tls13_names :
    (∀ (o o' : Nassl) (X : Finset String), (∀ x ∈ X, x ∈ tls13CipherSuites) →
      (∀ v, v ≠ .TLS_1_2 →
        parseAllCipherSuitesWithLegacyOpenssl o' v = parseAllCipherSuitesWithLegacyOpenssl o v) →
      (parseAllCipherSuitesWithLegacyOpenssl o' .TLS_1_2 =
          parseAllCipherSuitesWithLegacyOpenssl o .TLS_1_2 ∨
        parseAllCipherSuitesWithLegacyOpenssl o' .TLS_1_2 =
          parseAllCipherSuitesWithLegacyOpenssl o .TLS_1_2 ∪ X) →
      (cipherSuitesFromModernOpenssl o' = cipherSuitesFromModernOpenssl o ∨
        cipherSuitesFromModernOpenssl o' = cipherSuitesFromModernOpenssl o ∪ X) →
      parseAllCipherSuites o' = parseAllCipherSuites o) ∧
    ∀ (o : Nassl) (C : Catalog) (s s' : Finset CipherSuite), parseAllCipherSuites o = some C →
      C .TLS_1_2 = some s → C .TLS_1_3 = some s' →
      ∀ c ∈ s, c.opensslName ∉ tls13CipherSuites ∧ c.name ∉ tls13CipherSuites ∧
        ∀ c' ∈ s', c.name ≠ c'.name := by
  refine ⟨fun o o' X hX hlegacy hL hM => parseAllCipherSuites_congr fun w => ?_, ?_⟩
  · rcases mem_legacyVersions_or (w := w) with hw | rfl | rfl
    · obtain ⟨h₁₂, h₁₃⟩ := ne_of_mem_legacyVersions hw
      simp only [catalogEntry_of_ne h₁₂ h₁₃, legacyEntry, hlegacy w h₁₂]
    · -- with `X` added to both, the two engines' TLS 1.2 unions agree
      have hLX : parseAllCipherSuitesWithLegacyOpenssl o' .TLS_1_2 ∪ X =
          parseAllCipherSuitesWithLegacyOpenssl o .TLS_1_2 ∪ X := by
        rcases hL with hL | hL <;> simp [hL]
      have hMX : cipherSuitesFromModernOpenssl o' ∪ X = cipherSuitesFromModernOpenssl o ∪ X := by
        rcases hM with hM | hM <;> simp [hM]
      simp only [catalogEntry, tls12Entry]
      rw [← forEach_tls12LoopBody_union hX, Finset.union_union_distrib_right, hLX, hMX,
        ← Finset.union_union_distrib_right, forEach_tls12LoopBody_union hX]
    · rfl
  · intro o C s s' hC hs hs' c hc
    rw [parseAllCipherSuites_apply hC] at hs hs'
    obtain ⟨n, -, hn₁₃, hn⟩ := (mem_tls12Entry hs).mp hc
    obtain ⟨r, k, hr, -, rfl⟩ :=
      (toCipherSuite_eq_some_iff (rfl : opensslToRfcNamesMapping .TLS_1_2 = _)).mp hn
    have hr₁₃ : r ∉ tls13CipherSuites := tlsOpensslToRfcNamesMapping_not_tls13 _ (lookup_mem hr)
    refine ⟨hn₁₃, hr₁₃, fun c' hc' he => hr₁₃ ?_⟩
    obtain ⟨t, ht, k', -, rfl⟩ := (mem_tls13Entry hs').mp hc'
    rwa [show r = t from he]

/-- An engine whose two clients both report the TLS 1.3 suite `TLS_AES_128_GCM_SHA256` for
    TLS 1.2, and nothing else. -/
def tls13LeakNassl : Nassl :=
  ⟨fun v _ => if v = .TLS_1_2 then ["TLS_AES_128_GCM_SHA256"] else [],
    fun v _ => if v = .TLS_1_2 then ["TLS_AES_128_GCM_SHA256"] else []⟩

/-- An engine whose modern client reports, for TLS 1.2, a TLS 1.3 suite beside a TLS 1.2 one. -/
def modernTls12Nassl : Nassl :=
  ⟨fun _ _ => [],
    fun v _ => if v = .TLS_1_2 then ["TLS_AES_128_GCM_SHA256", "ECDHE-RSA-AES128-GCM-SHA256"] else []⟩

theorem tls12Entry_modernTls12Nassl : tls12Entry modernTls12Nassl =
    some {⟨"TLS_ECDHE_RSA_WITH_AES_128_GCM_SHA256", "ECDHE-RSA-AES128-GCM-SHA256", false, 128⟩} := by
  decide

theorem parseAllCipherSuites_modernTls12Nassl_ne_none : parseAllCipherSuites modernTls12Nassl ≠ none := by
  rw [Ne, parseAllCipherSuites_eq_none_iff]
  simp only [tls12Entry_modernTls12Nassl, tls13Entry_ne_none, or_false, reduceCtorEq]
  decide

/-- Both halves at concrete engines: the leaking engine builds what the silent one builds, and the
    TLS 1.2 set of `modernTls12Nassl` keeps its TLS 1.2 suite apart from the TLS 1.3 set. -/
theorem parseAllCipherSuites_tls13_names_leak :
    parseAllCipherSuites tls13LeakNassl = parseAllCipherSuites silentNassl ∧
      ∃ C s s', parseAllCipherSuites modernTls12Nassl = some C ∧ C .TLS_1_2 = some s ∧
        C .TLS_1_3 = some s' ∧ ∀ c ∈ s, c.opensslName ∉ tls13CipherSuites ∧
          c.name ∉ tls13CipherSuites ∧ ∀ c' ∈ s', c.name ≠ c'.name := by
  obtain ⟨h₁, h₂⟩ := parseAllCipherSuites_tls13_names
  refine ⟨h₁ silentNassl tls13LeakNassl {"TLS_AES_128_GCM_SHA256"} (by decide)
    (fun v hv => by simp [parseAllCipherSuitesWithLegacyOpenssl, tls13LeakNassl, silentNassl, hv])
    (.inr (by decide)) (.inr (by decide)), ?_⟩
  obtain ⟨C, hC⟩ := Option.ne_none_iff_exists'.mp parseAllCipherSuites_modernTls12Nassl_ne_none
  obtain ⟨s, hs⟩ := Option.ne_none_iff_exists'.mp
    (catalogEntry_ne_none parseAllCipherSuites_modernTls12Nassl_ne_none .TLS_1_2)
  obtain ⟨s', hs'⟩ := Option.ne_none_iff_exists'.mp
    (catalogEntry_ne_none parseAllCipherSuites_modernTls12Nassl_ne_none .TLS_1_3)
  rw [← parseAllCipherSuites_apply hC] at hs hs'
  exact ⟨C, s, s', hC, hs, hs', h₂ _ C s s' hC hs hs'⟩

end Sslyze.CipherSuites
