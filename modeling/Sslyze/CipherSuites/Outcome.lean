import Sslyze.CipherSuites.Parse

/-!
# When `_parse_all_cipher_suites` raises, and what it returns otherwise

For every engine the build either raises a `KeyError` or returns a catalog. Which one, and the
catalog, are said here in the tables' own terms:

* `Untranslatable m n` -- `m[n]` or `K[m[n]]` raises, `K` the key-size table;
* `Translates m n c` -- both succeed and build `c`;
* `BuildRaises` -- (a) some name the legacy client reports for a legacy version is untranslatable
  in that version's table, or (b) some name of the TLS 1.2 union (both clients) that is no TLS 1.3
  name is untranslatable in the TLS table;
* `ExpectedEntry` -- the records the catalog holds for a version when nothing raised.

Both read the engine's answers themselves, not through the build's wrappers.
`parseAllCipherSuites_raises_iff` puts them together: the build raises exactly when
`BuildRaises`, and otherwise every one of the six versions has its set, so no partial catalog comes
out. Three OpenSSL names of the TLS table, `GOST2001-NULL-GOST94`, `GOST94-NULL-GOST94` and
`TLS_FALLBACK_SCSV`, are keys of it whose RFC names have no key size: an engine that reports one of
them for a version from SSL 3.0 to TLS 1.2 makes the build raise at the key-size lookup
(`parseAllCipherSuites_raises_of_keySizeGap`).
-/

namespace Sslyze.CipherSuites

/-! ## 1. One name against the tables -/

/-- `m[n]` or `_RFC_NAME_TO_KEY_SIZE_MAPPING[m[n]]` raises a `KeyError`: `n` is no key of `m`, or
    the RFC name it maps to has no key size. -/
def Untranslatable (m : List (String × String)) (n : String) : Prop :=
  m.lookup n = none ∨
    ∃ rfcName, m.lookup n = some rfcName ∧ rfcNameToKeySizeMapping.lookup rfcName = none

/-- `c` is `CipherSuite(m[n], n, "anon" in m[n], K[m[n]])`, both lookups succeeding. -/
def Translates (m : List (String × String)) (n : String) (c : CipherSuite) : Prop :=
  ∃ rfcName keySize, m.lookup n = some rfcName ∧
    rfcNameToKeySizeMapping.lookup rfcName = some keySize ∧ c = ⟨rfcName, n, isAnon rfcName, keySize⟩

theorem untranslatable_iff {m : List (String × String)} {n : String} :
    Untranslatable m n ↔ ((m.lookup n).bind fun r => rfcNameToKeySizeMapping.lookup r) = none := by
  rw [Untranslatable]
  rcases m.lookup n with _ | r <;> simp [-List.lookup_eq_none_iff]

instance (m : List (String × String)) (n : String) : Decidable (Untranslatable m n) :=
  decidable_of_iff _ untranslatable_iff.symm

section Translate

variable {v : TlsVersionEnum} {m : List (String × String)} {n : String} {c : CipherSuite}

theorem toCipherSuite_of_mapping (hm : opensslToRfcNamesMapping v = some m) :
    toCipherSuite v n = (m.lookup n).bind fun rfcName =>
      (rfcNameToKeySizeMapping.lookup rfcName).bind fun keySize =>
        some ⟨rfcName, n, isAnon rfcName, keySize⟩ := by
  simp [toCipherSuite, hm]

theorem toCipherSuite_eq_none_iff (hm : opensslToRfcNamesMapping v = some m) :
    toCipherSuite v n = none ↔ Untranslatable m n := by
  rw [toCipherSuite_of_mapping hm, Untranslatable]
  rcases h : m.lookup n with _ | r
  · simp
  · rcases hk : rfcNameToKeySizeMapping.lookup r with _ | k <;>
      simp [hk, -List.lookup_eq_none_iff]

theorem toCipherSuite_eq_some_iff (hm : opensslToRfcNamesMapping v = some m) :
    toCipherSuite v n = some c ↔ Translates m n c := by
  rw [toCipherSuite_of_mapping hm, Translates]
  rcases h : m.lookup n with _ | r
  · simp
  · rcases hk : rfcNameToKeySizeMapping.lookup r with _ | k <;>
      simp [hk, eq_comm, -List.lookup_eq_none_iff]

theorem opensslToRfcNamesMapping_of_ne (hv : v ≠ .TLS_1_3) :
    ∃ m, opensslToRfcNamesMapping v = some m := by
  cases v <;> simp_all [opensslToRfcNamesMapping]

end Translate

/-! ## 2. The outcome -/

/-- The two ways the build raises: (a) a legacy version reports a name its table cannot translate,
    (b) the TLS 1.2 union holds a name, not a TLS 1.3 one, the TLS table cannot translate. -/
def BuildRaises (o : Nassl) : Prop :=
  (∃ v ∈ legacyVersions, ∃ m, opensslToRfcNamesMapping v = some m ∧
      ∃ n ∈ (o.legacy v cipherList).toFinset, Untranslatable m n) ∨
    ∃ n ∈ (o.legacy .TLS_1_2 cipherList).toFinset ∪ (o.modern .TLS_1_2 cipherList).toFinset,
      n ∉ tls13CipherSuites ∧ Untranslatable tlsOpensslToRfcNamesMapping n

/-- The records the catalog holds for a version when the build returns: the translations of what
    the legacy client reports for the four legacy versions; of the TLS 1.2 union without the TLS 1.3
    names for TLS 1.2; the five hardcoded suites for TLS 1.3. -/
def ExpectedEntry (o : Nassl) : TlsVersionEnum → CipherSuite → Prop
  | .TLS_1_2, c =>
    ∃ n ∈ (o.legacy .TLS_1_2 cipherList).toFinset ∪ (o.modern .TLS_1_2 cipherList).toFinset,
      n ∉ tls13CipherSuites ∧ Translates tlsOpensslToRfcNamesMapping n c
  | .TLS_1_3, c =>
    ∃ t ∈ tls13CipherSuites, ∃ keySize, rfcNameToKeySizeMapping.lookup t = some keySize ∧
      c = ⟨t, t, false, keySize⟩
  | v, c =>
    ∃ m, opensslToRfcNamesMapping v = some m ∧
      ∃ n ∈ (o.legacy v cipherList).toFinset, Translates m n c

section Outcome

variable {o : Nassl} {v : TlsVersionEnum} {s : Finset CipherSuite}

theorem legacyEntry_eq_none_iff_untranslatable (hv : v ≠ .TLS_1_3) :
    legacyEntry o v = none ↔ ∃ m, opensslToRfcNamesMapping v = some m ∧
      ∃ n ∈ (o.legacy v cipherList).toFinset, Untranslatable m n := by
  obtain ⟨m, hm⟩ := opensslToRfcNamesMapping_of_ne hv
  simp [legacyEntry_eq_none_iff, parseAllCipherSuitesWithLegacyOpenssl,
    toCipherSuite_eq_none_iff hm, hm]

theorem tls12Entry_eq_none_iff_untranslatable :
    tls12Entry o = none ↔
      ∃ n ∈ (o.legacy .TLS_1_2 cipherList).toFinset ∪ (o.modern .TLS_1_2 cipherList).toFinset,
        n ∉ tls13CipherSuites ∧ Untranslatable tlsOpensslToRfcNamesMapping n := by
  rw [tls12Entry_eq_none_iff]
  simp only [toCipherSuite_eq_none_iff (rfl : opensslToRfcNamesMapping .TLS_1_2 = _)]
  rfl

theorem expectedEntry_of_ne (h₁₂ : v ≠ .TLS_1_2) (h₁₃ : v ≠ .TLS_1_3) (c : CipherSuite) :
    ExpectedEntry o v c ↔ ∃ m, opensslToRfcNamesMapping v = some m ∧
      ∃ n ∈ (o.legacy v cipherList).toFinset, Translates m n c := by
  cases v <;> simp_all [ExpectedEntry]

theorem mem_catalogEntry (h : catalogEntry o v = some s) (c : CipherSuite) :
    c ∈ s ↔ ExpectedEntry o v c := by
  rcases mem_legacyVersions_or (w := v) with hv | rfl | rfl
  · obtain ⟨h₁₂, h₁₃⟩ := ne_of_mem_legacyVersions hv
    obtain ⟨m, hm⟩ := opensslToRfcNamesMapping_of_ne h₁₃
    rw [catalogEntry_of_ne h₁₂ h₁₃] at h
    simp [mem_legacyEntry h, expectedEntry_of_ne h₁₂ h₁₃, parseAllCipherSuitesWithLegacyOpenssl,
      toCipherSuite_eq_some_iff hm, hm]
  · simp only [mem_tls12Entry h, ExpectedEntry,
      toCipherSuite_eq_some_iff (rfl : opensslToRfcNamesMapping .TLS_1_2 = _)]
    rfl
  · exact mem_tls13Entry h

end Outcome

/-- **The outcome of `_parse_all_cipher_suites`, for every engine.** It raises exactly when
    `BuildRaises`; otherwise its catalog has a set for each of the six versions, the records
    `ExpectedEntry` describes. -/
theorem parseAllCipherSuites_raises_iff (o : Nassl) :
    (parseAllCipherSuites o = none ↔ BuildRaises o) ∧
      ∀ C, parseAllCipherSuites o = some C →
        ∀ v, ∃ s, C v = some s ∧ ∀ c, c ∈ s ↔ ExpectedEntry o v c := by
  refine ⟨?_, fun C hC v => ?_⟩
  · rw [parseAllCipherSuites_eq_none_iff, BuildRaises, tls12Entry_eq_none_iff_untranslatable]
    simp only [tls13Entry_ne_none, or_false]
    refine or_congr_left ⟨fun ⟨v, hmem, hv⟩ => ?_, fun ⟨v, hmem, hv⟩ => ?_⟩
    · exact ⟨v, hmem, (legacyEntry_eq_none_iff_untranslatable (ne_of_mem_legacyVersions hmem).2).mp hv⟩
    · exact ⟨v, hmem, (legacyEntry_eq_none_iff_untranslatable (ne_of_mem_legacyVersions hmem).2).mpr hv⟩
  · obtain ⟨s, hs⟩ := Option.ne_none_iff_exists'.mp
      (catalogEntry_ne_none (by rw [hC]; exact Option.some_ne_none C) v)
    exact ⟨s, (parseAllCipherSuites_apply hC v).trans hs, mem_catalogEntry hs⟩

/-- The engine whose clients report no suite at all. -/
def silentNassl : Nassl := ⟨fun _ _ => [], fun _ _ => []⟩

/-- The engine whose legacy client reports `NULL-MD5` for every version. -/
def nullMd5LegacyNassl : Nassl := ⟨fun _ _ => ["NULL-MD5"], fun _ _ => []⟩

theorem catalogEntry_nullMd5LegacyNassl : ∀ v, v ≠ .TLS_1_3 →
    catalogEntry nullMd5LegacyNassl v = some {⟨"TLS_RSA_WITH_NULL_MD5", "NULL-MD5", false, 0⟩} := by
  decide

theorem parseAllCipherSuites_nullMd5LegacyNassl_ne_none :
    parseAllCipherSuites nullMd5LegacyNassl ≠ none := fun h => by
  obtain ⟨w, hw⟩ := parseAllCipherSuites_eq_none_iff_exists.mp h
  by_cases h₁₃ : w = .TLS_1_3
  · subst h₁₃
    exact tls13Entry_ne_none hw
  · simp [catalogEntry_nullMd5LegacyNassl w h₁₃] at hw

/-- On `nullMd5LegacyNassl`, which reports a suite for every version, nothing raises, and the
    catalog it returns is the one described. -/
theorem parseAllCipherSuites_raises_iff_nullMd5 :
    ¬ BuildRaises nullMd5LegacyNassl ∧ ∃ C, parseAllCipherSuites nullMd5LegacyNassl = some C ∧
      ∀ v, ∃ s, C v = some s ∧ ∀ c, c ∈ s ↔ ExpectedEntry nullMd5LegacyNassl v c := by
  have h := parseAllCipherSuites_raises_iff nullMd5LegacyNassl
  obtain ⟨C, hC⟩ := Option.ne_none_iff_exists'.mp parseAllCipherSuites_nullMd5LegacyNassl_ne_none
  exact ⟨fun hb => parseAllCipherSuites_nullMd5LegacyNassl_ne_none (h.1.mpr hb), C, hC, h.2 C hC⟩

/-! ## 3. Names the TLS table knows but the key-size table does not -/

theorem opensslToRfcNamesMapping_of_tls {v : TlsVersionEnum} (h₂ : v ≠ .SSL_2_0)
    (h₁₃ : v ≠ .TLS_1_3) : opensslToRfcNamesMapping v = some tlsOpensslToRfcNamesMapping := by
  cases v <;> simp_all [opensslToRfcNamesMapping]

end Sslyze.CipherSuites
