import Sslyze.CipherSuites.Names

/-!
# `CipherSuitesRepository`: the catalog once built

The class attribute `_ALL_CIPHER_SUITES = _parse_all_cipher_suites()` runs when the class body
runs; a `KeyError` there leaves no class. `CipherSuitesRepository` is the class after a body that
did not raise: it carries the engine and the fact that the catalog is what the build returned
(`parsed`), so `getAllCipherSuites` is total -- every version has its set -- and every fact about
the build holds of every repository.

* `load_getAllCipherSuites` -- the class exists exactly when the build returns, and then serves the
  catalog's set for every version;
* the properties of every served set, for every repository and version: key sizes
  (`getAllCipherSuites_keySize`), the anonymity flag, which the code reads off the RFC name's
  `"anon"` and which agrees with OpenSSL's `ADH-`/`AECDH-`/`EXP-ADH-` names
  (`getAllCipherSuites_isAnonymous_iff`), the TLS 1.3 set (`getAllCipherSuites_tls13`), and the
  SSL 2.0 set (`getAllCipherSuites_sslv2`; a 0-bit suite, `NULL-MD5`, is possible there);
* `parseAllCipherSuites_frame` -- what the build reads of the engine;
* `parseAllCipherSuites_mono` -- an engine that reports more names raises whenever a smaller one
  does, and otherwise serves supersets;
* `getAllCipherSuites_opensslName_inj` -- from SSL 3.0 to TLS 1.2 an OpenSSL name means one record,
  in every version that serves it.
-/

namespace Sslyze.CipherSuites

/-! ## 1. The repository -/

/-- `CipherSuitesRepository` after its class body ran against the engine `nassl`: its
    `_ALL_CIPHER_SUITES` is what `_parse_all_cipher_suites()` returned. -/
structure CipherSuitesRepository where
  nassl : Nassl
  allCipherSuites : Catalog
  parsed : parseAllCipherSuites nassl = some allCipherSuites

namespace CipherSuitesRepository

/-- The class body: `none` when `_parse_all_cipher_suites()` raises. -/
def load (o : Nassl) : Option CipherSuitesRepository :=
  match h : parseAllCipherSuites o with
  | none => none
  | some C => some ⟨o, C, h⟩

theorem allCipherSuites_ne_none (r : CipherSuitesRepository) (v : TlsVersionEnum) :
    r.allCipherSuites v ≠ none := by
  rw [parseAllCipherSuites_apply r.parsed]
  exact catalogEntry_ne_none (by simp [r.parsed]) v

/-- `get_all_cipher_suites`: `cls._ALL_CIPHER_SUITES[tls_version]`, which never raises. -/
def getAllCipherSuites (r : CipherSuitesRepository) (tlsVersion : TlsVersionEnum) :
    Finset CipherSuite :=
  (r.allCipherSuites tlsVersion).get (Option.isSome_iff_ne_none.mpr (r.allCipherSuites_ne_none _))

theorem allCipherSuites_eq (r : CipherSuitesRepository) (v : TlsVersionEnum) :
    r.allCipherSuites v = some (r.getAllCipherSuites v) :=
  (Option.some_get _).symm

theorem catalogEntry_eq (r : CipherSuitesRepository) (v : TlsVersionEnum) :
    catalogEntry r.nassl v = some (r.getAllCipherSuites v) :=
  (parseAllCipherSuites_apply r.parsed v).symm.trans (r.allCipherSuites_eq v)

/-- A build that returns gives a repository, serving every version's `catalogEntry`. -/
theorem exists_of_ne_none {o : Nassl} (h : parseAllCipherSuites o ≠ none) :
    ∃ r : CipherSuitesRepository, r.nassl = o ∧ ∀ v, catalogEntry o v = some (r.getAllCipherSuites v) := by
  obtain ⟨C, hC⟩ := Option.ne_none_iff_exists'.mp h
  exact ⟨⟨o, C, hC⟩, rfl, catalogEntry_eq ⟨o, C, hC⟩⟩

theorem load_eq_some_iff {o : Nassl} {r : CipherSuitesRepository} :
    load o = some r ↔ r.nassl = o ∧ parseAllCipherSuites o = some r.allCipherSuites := by
  unfold load
  split <;> rename_i h
  · exact iff_of_false (by simp) fun ⟨_, h'⟩ => by simp [h] at h'
  · refine ⟨fun he => ?_, fun ⟨ho, h'⟩ => ?_⟩
    · cases he
      exact ⟨rfl, h⟩
    · subst ho
      cases Option.some.inj (h.symm.trans h')
      rfl

/-- **The class exists exactly when the build returns a catalog, and serves that catalog**: every
    version's set is what `get_all_cipher_suites` answers. -/
theorem load_getAllCipherSuites (o : Nassl) (C : Catalog) :
    parseAllCipherSuites o = some C ↔
      ∃ r, load o = some r ∧ ∀ v, C v = some (r.getAllCipherSuites v) := by
  constructor
  · intro h
    exact ⟨⟨o, C, h⟩, load_eq_some_iff.mpr ⟨rfl, h⟩, fun v => allCipherSuites_eq ⟨o, C, h⟩ v⟩
  · rintro ⟨r, hr, hC⟩
    obtain ⟨rfl, h⟩ := load_eq_some_iff.mp hr
    rw [h, funext fun v => (hC v).trans (r.allCipherSuites_eq v).symm]

end CipherSuitesRepository

/-! ## 2. Every record is a translation -/

section Records

variable {v : TlsVersionEnum} {n : String} {c : CipherSuite}

theorem toCipherSuite_keySize (h : toCipherSuite v n = some c) : c.keySize ∈ keySizes := by
  rcases hm : opensslToRfcNamesMapping v with _ | m
  · simp [toCipherSuite, hm] at h
  · obtain ⟨r, k, -, hk, rfl⟩ := (toCipherSuite_eq_some_iff hm).mp h
    exact keySize_mem_keySizes hk

/-- A translated record is anonymous exactly when OpenSSL's name for it says so: the flag comes from
    the RFC name, and the tables tie the two names. -/
theorem toCipherSuite_isAnonymous_iff (h : toCipherSuite v n = some c) :
    c.isAnonymous = true ↔ OpensslAnonymous c.opensslName := by
  rcases hm : opensslToRfcNamesMapping v with _ | m
  · simp [toCipherSuite, hm] at h
  · obtain ⟨r, k, hr, -, rfl⟩ := (toCipherSuite_eq_some_iff hm).mp h
    by_cases h₂ : v = .SSL_2_0
    · subst h₂
      cases hm
      exact iff_of_false (by simp [sslv2OpensslToRfcNamesMapping_not_anon _ (lookup_mem hr)])
        (not_opensslAnonymous_sslv2_tls13.1 _ (lookup_mem hr))
    · have h₁₃ : v ≠ .TLS_1_3 := by rintro rfl; cases hm
      cases hm.symm.trans (opensslToRfcNamesMapping_of_tls h₂ h₁₃)
      exact tlsOpensslToRfcNamesMapping_isAnon_iff (lookup_mem hr)

theorem tls13CipherSuite_keySize (h : tls13CipherSuite n = some c) : c.keySize ∈ keySizes := by
  obtain ⟨k, hk, rfl⟩ := tls13CipherSuite_eq_some_iff.mp h
  exact keySize_mem_keySizes hk

theorem tls13CipherSuite_isAnonymous_iff (hn : n ∈ tls13CipherSuites)
    (h : tls13CipherSuite n = some c) : c.isAnonymous = true ↔ OpensslAnonymous c.opensslName := by
  obtain ⟨k, -, rfl⟩ := tls13CipherSuite_eq_some_iff.mp h
  exact iff_of_false Bool.false_ne_true (not_opensslAnonymous_sslv2_tls13.2 n hn)

/-- A record a repository serves is the translation of an OpenSSL name, or for TLS 1.3 one of the
    hardcoded records. -/
theorem mem_getAllCipherSuites (r : CipherSuitesRepository) (hc : c ∈ r.getAllCipherSuites v) :
    (∃ n, toCipherSuite v n = some c) ∨
      v = .TLS_1_3 ∧ ∃ t ∈ tls13CipherSuites, tls13CipherSuite t = some c := by
  have h := r.catalogEntry_eq v
  rcases mem_legacyVersions_or (w := v) with hv | rfl | rfl
  · obtain ⟨h₁₂, h₁₃⟩ := ne_of_mem_legacyVersions hv
    rw [catalogEntry_of_ne h₁₂ h₁₃] at h
    obtain ⟨n, -, hn⟩ := (mem_legacyEntry h).mp hc
    exact .inl ⟨n, hn⟩
  · obtain ⟨n, -, -, hn⟩ := (mem_tls12Entry h).mp hc
    exact .inl ⟨n, hn⟩
  · obtain ⟨t, ht, hct⟩ := (builtFrom_tls13 (o := r.nassl) h).mem c |>.mp hc
    exact .inr ⟨rfl, t, List.mem_toFinset.mp ht, hct⟩

end Records

/-! ## 3. Every served set -/

/-- **Key sizes**: every suite a repository serves has one of the key sizes the table holds. -/
theorem getAllCipherSuites_keySize (r : CipherSuitesRepository) (v : TlsVersionEnum) :
    ∀ c ∈ r.getAllCipherSuites v, c.keySize ∈ [0, 40, 56, 64, 128, 168, 256] := by
  intro c hc
  rcases mem_getAllCipherSuites r hc with ⟨n, hn⟩ | ⟨-, t, -, ht⟩
  · exact toCipherSuite_keySize hn
  · exact tls13CipherSuite_keySize ht

/-- **The anonymity flag agrees with OpenSSL's names**: a suite a repository serves, for any
    version, is anonymous exactly when its OpenSSL name starts `ADH-`, `AECDH-` or `EXP-ADH-`,
    although the code sets the flag from the RFC name's `"anon"`. -/
theorem getAllCipherSuites_isAnonymous_iff (r : CipherSuitesRepository) (v : TlsVersionEnum) :
    ∀ c ∈ r.getAllCipherSuites v, c.isAnonymous = true ↔ OpensslAnonymous c.opensslName := by
  intro c hc
  rcases mem_getAllCipherSuites r hc with ⟨n, hn⟩ | ⟨-, t, ht, htc⟩
  · exact toCipherSuite_isAnonymous_iff hn
  · exact tls13CipherSuite_isAnonymous_iff ht htc

theorem tls13Entry_eq : tls13Entry = some
    {⟨"TLS_AES_128_GCM_SHA256", "TLS_AES_128_GCM_SHA256", false, 128⟩,
      ⟨"TLS_AES_128_CCM_SHA256", "TLS_AES_128_CCM_SHA256", false, 128⟩,
      ⟨"TLS_AES_256_GCM_SHA384", "TLS_AES_256_GCM_SHA384", false, 256⟩,
      ⟨"TLS_AES_128_CCM_8_SHA256", "TLS_AES_128_CCM_8_SHA256", false, 128⟩,
      ⟨"TLS_CHACHA20_POLY1305_SHA256", "TLS_CHACHA20_POLY1305_SHA256", false, 256⟩} := by
  have hK := tls13CipherSuites_lookup
  simp only [tls13CipherSuites, List.map_cons, List.map_nil, List.cons.injEq, and_true] at hK
  obtain ⟨s, hs⟩ := Option.ne_none_iff_exists'.mp tls13Entry_ne_none
  refine hs.trans (congrArg some (Finset.ext fun c => ?_))
  simp [mem_tls13Entry hs, tls13CipherSuites, hK]

/-- **The TLS 1.3 set** is the five hardcoded suites, not anonymous, with their table key sizes,
    whatever the engine reports. -/
theorem getAllCipherSuites_tls13 (r : CipherSuitesRepository) :
    r.getAllCipherSuites .TLS_1_3 =
      {⟨"TLS_AES_128_GCM_SHA256", "TLS_AES_128_GCM_SHA256", false, 128⟩,
        ⟨"TLS_AES_128_CCM_SHA256", "TLS_AES_128_CCM_SHA256", false, 128⟩,
        ⟨"TLS_AES_256_GCM_SHA384", "TLS_AES_256_GCM_SHA384", false, 256⟩,
        ⟨"TLS_AES_128_CCM_8_SHA256", "TLS_AES_128_CCM_8_SHA256", false, 128⟩,
        ⟨"TLS_CHACHA20_POLY1305_SHA256", "TLS_CHACHA20_POLY1305_SHA256", false, 256⟩} :=
  Option.some.inj ((r.catalogEntry_eq .TLS_1_3).symm.trans tls13Entry_eq)

/-- **The SSL 2.0 set**: never an anonymous suite, never a 256-bit one. A 0-bit suite is possible:
    the table maps `NULL-MD5` to `TLS_RSA_WITH_NULL_MD5`. -/
theorem getAllCipherSuites_sslv2 (r : CipherSuitesRepository) :
    ∀ c ∈ r.getAllCipherSuites .SSL_2_0,
      c.isAnonymous = false ∧ c.keySize ∈ [0, 40, 56, 64, 128, 168] := by
  intro c hc
  rcases mem_getAllCipherSuites r hc with ⟨n, hn⟩ | ⟨h, -⟩
  · obtain ⟨rfc, k, hrfc, hk, rfl⟩ :=
      (toCipherSuite_eq_some_iff (rfl : opensslToRfcNamesMapping .SSL_2_0 = _)).mp hn
    exact ⟨sslv2OpensslToRfcNamesMapping_not_anon _ (lookup_mem hrfc),
      sslv2OpensslToRfcNamesMapping_keySize _ (lookup_mem hrfc) k hk⟩
  · cases h

/-- The engine whose legacy client reports `NULL-MD5` for SSL 2.0, and nothing else. -/
def nullMd5Nassl : Nassl := ⟨fun v _ => if v = .SSL_2_0 then ["NULL-MD5"] else [], fun _ _ => []⟩

theorem legacyEntry_nullMd5Nassl :
    legacyEntry nullMd5Nassl .SSL_2_0 = some {⟨"TLS_RSA_WITH_NULL_MD5", "NULL-MD5", false, 0⟩} := by
  decide

/-- The repository built against `nullMd5Nassl`, serving the 0-bit SSL 2.0 suite. -/
theorem nullMd5_repository : ∃ r : CipherSuitesRepository,
    ⟨"TLS_RSA_WITH_NULL_MD5", "NULL-MD5", false, 0⟩ ∈ r.getAllCipherSuites .SSL_2_0 := by
  have hne : parseAllCipherSuites nullMd5Nassl ≠ none := by
    rw [Ne, parseAllCipherSuites_eq_none_iff]
    simp only [legacyVersions, List.mem_cons, List.mem_singleton, exists_eq_or_imp,
      exists_eq_left, legacyEntry_nullMd5Nassl, tls13Entry_ne_none, List.not_mem_nil, or_false]
    decide
  obtain ⟨r, -, hr⟩ := CipherSuitesRepository.exists_of_ne_none hne
  refine ⟨r, ?_⟩
  rw [Option.some.inj ((hr .SSL_2_0).symm.trans legacyEntry_nullMd5Nassl)]
  exact Finset.mem_singleton_self _

/-- The key-size bound at the `NULL-MD5` suite. -/
theorem getAllCipherSuites_keySize_nullMd5 : ∃ r : CipherSuitesRepository,
    ∃ c ∈ r.getAllCipherSuites .SSL_2_0, c.keySize ∈ [0, 40, 56, 64, 128, 168, 256] := by
  obtain ⟨r, hc⟩ := nullMd5_repository
  exact ⟨r, _, hc, getAllCipherSuites_keySize r _ _ hc⟩

/-- The engine whose legacy client reports the anonymous suite `ADH-AES128-SHA` for TLS 1.0. -/
def adhNassl : Nassl := ⟨fun v _ => if v = .TLS_1_0 then ["ADH-AES128-SHA"] else [], fun _ _ => []⟩

theorem legacyEntry_adhNassl : legacyEntry adhNassl .TLS_1_0 =
    some {⟨"TLS_DH_anon_WITH_AES_128_CBC_SHA", "ADH-AES128-SHA", true, 128⟩} := by
  decide

/-- Against `adhNassl` the repository serves an anonymous suite for TLS 1.0, and its OpenSSL name
    says so. -/
theorem getAllCipherSuites_isAnonymous_iff_adh : ∃ r : CipherSuitesRepository,
    ∃ c ∈ r.getAllCipherSuites .TLS_1_0, c.isAnonymous = true ∧
      (c.isAnonymous = true ↔ OpensslAnonymous c.opensslName) := by
  have hne : parseAllCipherSuites adhNassl ≠ none := by
    rw [Ne, parseAllCipherSuites_eq_none_iff]
    simp only [legacyVersions, List.mem_cons, List.mem_singleton, exists_eq_or_imp,
      exists_eq_left, legacyEntry_adhNassl, tls13Entry_ne_none, List.not_mem_nil, or_false]
    decide
  obtain ⟨r, -, hr⟩ := CipherSuitesRepository.exists_of_ne_none hne
  have hc : ⟨"TLS_DH_anon_WITH_AES_128_CBC_SHA", "ADH-AES128-SHA", true, 128⟩ ∈
      r.getAllCipherSuites .TLS_1_0 := by
    rw [Option.some.inj ((hr .TLS_1_0).symm.trans legacyEntry_adhNassl)]
    exact Finset.mem_singleton_self _
  exact ⟨r, _, hc, rfl, getAllCipherSuites_isAnonymous_iff r _ _ hc⟩

/-- The SSL 2.0 bound at the `NULL-MD5` suite, whose key size is 0. -/
theorem getAllCipherSuites_sslv2_nullMd5 : ∃ r : CipherSuitesRepository,
    ∃ c ∈ r.getAllCipherSuites .SSL_2_0, c.keySize = 0 ∧
      (c.isAnonymous = false ∧ c.keySize ∈ [0, 40, 56, 64, 128, 168]) := by
  obtain ⟨r, hc⟩ := nullMd5_repository
  exact ⟨r, _, hc, rfl, getAllCipherSuites_sslv2 r _ hc⟩

/-! ## 4. What the build reads of the engine -/

/-- **Frame**: the build asks the legacy client only for the versions up to TLS 1.2, the modern
    client only for TLS 1.2, both only under `ALL:COMPLEMENTOFALL:-PSK:-SRP`, and keeps only the sets
    of names. Engines that agree there build the same. -/
theorem parseAllCipherSuites_frame (o o' : Nassl)
    (hlegacy : ∀ v, v ≠ .TLS_1_3 →
      (o'.legacy v cipherList).toFinset = (o.legacy v cipherList).toFinset)
    (hmodern : (o'.modern .TLS_1_2 cipherList).toFinset = (o.modern .TLS_1_2 cipherList).toFinset) :
    parseAllCipherSuites o' = parseAllCipherSuites o := by
  refine parseAllCipherSuites_congr fun w => ?_
  rcases mem_legacyVersions_or (w := w) with hw | rfl | rfl
  · obtain ⟨h₁₂, h₁₃⟩ := ne_of_mem_legacyVersions hw
    simp only [catalogEntry_of_ne h₁₂ h₁₃, legacyEntry, parseAllCipherSuitesWithLegacyOpenssl,
      hlegacy w h₁₃]
  · simp only [catalogEntry, tls12Entry, parseAllCipherSuitesWithLegacyOpenssl,
      cipherSuitesFromModernOpenssl, hlegacy _ (by decide : TlsVersionEnum.TLS_1_2 ≠ .TLS_1_3),
      hmodern]
  · rfl

/-- An engine that reports suites only where the build does not look: for TLS 1.3, under other
    cipher strings, and twice over. -/
def unreadNassl : Nassl :=
  ⟨fun v s => if v = .TLS_1_3 ∨ s ≠ cipherList then ["RC4-MD5"] else [],
    fun v s => if v = .TLS_1_2 ∧ s = cipherList then [] else ["RC4-MD5", "RC4-MD5"]⟩

/-- `unreadNassl` builds what the silent engine builds. -/
theorem parseAllCipherSuites_frame_unread :
    parseAllCipherSuites unreadNassl = parseAllCipherSuites silentNassl :=
  parseAllCipherSuites_frame silentNassl unreadNassl
    (fun v hv => by simp [unreadNassl, silentNassl, hv])
    (by simp [unreadNassl, silentNassl])

section Mono

variable {o o' : Nassl}

theorem catalogEntry_mono
    (hlegacy : ∀ v, parseAllCipherSuitesWithLegacyOpenssl o v ⊆ parseAllCipherSuitesWithLegacyOpenssl o' v)
    (hmodern : cipherSuitesFromModernOpenssl o ⊆ cipherSuitesFromModernOpenssl o')
    (w : TlsVersionEnum) : (catalogEntry o w = none → catalogEntry o' w = none) ∧
      ∀ t t', catalogEntry o w = some t → catalogEntry o' w = some t' → t ⊆ t' := by
  rcases mem_legacyVersions_or (w := w) with hw | rfl | rfl
  · obtain ⟨h₁₂, h₁₃⟩ := ne_of_mem_legacyVersions hw
    simp only [catalogEntry_of_ne h₁₂ h₁₃, legacyEntry]
    exact ⟨forEach_eq_none_of_subset (hlegacy w), fun _ _ => forEach_subset (hlegacy w)⟩
  · have hU := Finset.union_subset_union (hlegacy .TLS_1_2) hmodern
    exact ⟨forEach_eq_none_of_subset hU, fun _ _ => forEach_subset hU⟩
  · refine ⟨id, fun t t' h h' => ?_⟩
    cases h.symm.trans h'
    exact subset_rfl

/-- **Monotone in what the engine reports**: an engine that reports more names fails whenever the
    smaller one fails, and otherwise serves a superset for every version. -/
theorem parseAllCipherSuites_mono (o o' : Nassl)
    (hlegacy : ∀ v, parseAllCipherSuitesWithLegacyOpenssl o v ⊆ parseAllCipherSuitesWithLegacyOpenssl o' v)
    (hmodern : cipherSuitesFromModernOpenssl o ⊆ cipherSuitesFromModernOpenssl o') :
    (parseAllCipherSuites o = none → parseAllCipherSuites o' = none) ∧
      ∀ C C', parseAllCipherSuites o = some C → parseAllCipherSuites o' = some C' →
        ∀ v s s', C v = some s → C' v = some s' → s ⊆ s' := by
  refine ⟨fun h => ?_, fun C C' hC hC' v s s' hs hs' => ?_⟩
  · obtain ⟨w, hw⟩ := parseAllCipherSuites_eq_none_iff_exists.mp h
    exact parseAllCipherSuites_eq_none_iff_exists.mpr
      ⟨w, (catalogEntry_mono hlegacy hmodern w).1 hw⟩
  · rw [parseAllCipherSuites_apply hC] at hs
    rw [parseAllCipherSuites_apply hC'] at hs'
    exact (catalogEntry_mono hlegacy hmodern v).2 s s' hs hs'

end Mono

/-- The silent engine against `aliasNassl`: its TLS 1.0 set, empty, sits inside the alias one. -/
theorem parseAllCipherSuites_mono_alias : ∃ C C' s s', parseAllCipherSuites silentNassl = some C ∧
    parseAllCipherSuites aliasNassl = some C' ∧ C .TLS_1_0 = some s ∧ C' .TLS_1_0 = some s' ∧
      s ⊆ s' := by
  have h := parseAllCipherSuites_mono silentNassl aliasNassl
    (fun v => by simp [parseAllCipherSuitesWithLegacyOpenssl, silentNassl])
    (by simp [cipherSuitesFromModernOpenssl, silentNassl])
  have hne : parseAllCipherSuites silentNassl ≠ none := by
    rw [Ne, parseAllCipherSuites_eq_none_iff]
    simp only [tls13Entry_ne_none, or_false]
    decide
  obtain ⟨C, hC⟩ := Option.ne_none_iff_exists'.mp hne
  obtain ⟨C', hC', hs'⟩ := parseAllCipherSuites_aliasNassl
  obtain ⟨s, hs⟩ := Option.ne_none_iff_exists'.mp (catalogEntry_ne_none hne .TLS_1_0)
  rw [← parseAllCipherSuites_apply hC] at hs
  exact ⟨C, C', s, _, hC, hC', hs, hs', h.2 C C' hC hC' _ s _ hs hs'⟩

/-! ## 5. One OpenSSL name, one record, across the versions that share the TLS table -/

theorem toCipherSuite_of_tls {v v' : TlsVersionEnum} {n : String} (hv : v ≠ .SSL_2_0 ∧ v ≠ .TLS_1_3)
    (hv' : v' ≠ .SSL_2_0 ∧ v' ≠ .TLS_1_3) : toCipherSuite v n = toCipherSuite v' n := by
  simp only [toCipherSuite, opensslToRfcNamesMapping_of_tls hv.1 hv.2,
    opensslToRfcNamesMapping_of_tls hv'.1 hv'.2]

/-- **From SSL 3.0 to TLS 1.2 an OpenSSL name means one suite**: these versions share
    the TLS table, so records of any two of them with the same OpenSSL name are the same record,
    whichever loop built them. SSL 2.0 has a table of its own. -/
theorem getAllCipherSuites_opensslName_inj (r : CipherSuitesRepository) {v v' : TlsVersionEnum}
    (hv : v ≠ .SSL_2_0 ∧ v ≠ .TLS_1_3) (hv' : v' ≠ .SSL_2_0 ∧ v' ≠ .TLS_1_3) {c c' : CipherSuite}
    (hc : c ∈ r.getAllCipherSuites v) (hc' : c' ∈ r.getAllCipherSuites v')
    (h : c.opensslName = c'.opensslName) : c = c' := by
  obtain ⟨n, hn⟩ := (mem_getAllCipherSuites r hc).resolve_right (hv.2 ·.1)
  obtain ⟨n', hn'⟩ := (mem_getAllCipherSuites r hc').resolve_right (hv'.2 ·.1)
  rw [toCipherSuite_opensslName hn, toCipherSuite_opensslName hn'] at h
  subst h
  rw [toCipherSuite_of_tls hv hv'] at hn
  exact Option.some.inj (hn.symm.trans hn')

/-- `NULL-MD5` reported for SSL 3.0 and for TLS 1.2 gives one record, built by the legacy loop for
    SSL 3.0 and by the TLS 1.2 loop for TLS 1.2. -/
theorem getAllCipherSuites_opensslName_inj_nullMd5 : ∃ (r : CipherSuitesRepository) (c c' : CipherSuite),
    c ∈ r.getAllCipherSuites .SSL_3_0 ∧ c' ∈ r.getAllCipherSuites .TLS_1_2 ∧
      c.opensslName = c'.opensslName ∧ c = c' := by
  obtain ⟨r, -, hr⟩ :=
    CipherSuitesRepository.exists_of_ne_none parseAllCipherSuites_nullMd5LegacyNassl_ne_none
  have hmem : ∀ v, v ≠ .TLS_1_3 →
      ⟨"TLS_RSA_WITH_NULL_MD5", "NULL-MD5", false, 0⟩ ∈ r.getAllCipherSuites v := fun v hv => by
    rw [Option.some.inj ((hr v).symm.trans (catalogEntry_nullMd5LegacyNassl v hv))]
    exact Finset.mem_singleton_self _
  have h₃ := hmem .SSL_3_0 (by decide)
  have h₁₂ := hmem .TLS_1_2 (by decide)
  exact ⟨r, _, _, h₃, h₁₂, rfl,
    getAllCipherSuites_opensslName_inj r (by decide) (by decide) h₃ h₁₂ rfl⟩

end Sslyze.CipherSuites
