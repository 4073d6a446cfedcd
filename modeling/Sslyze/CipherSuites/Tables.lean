import Mathlib.Data.Finset.Basic
import Mathlib.Data.List.Infix
import Mathlib.Tactic.DeriveFintype

/-!
# The data of `cipher_suites.py`: versions, records and the name tables

Everything `_parse_all_cipher_suites` reads that is not the OpenSSL engine:

* `TlsVersionEnum` and the record `CipherSuite` (a frozen dataclass, so two records are equal
  exactly when their four fields are);
* the OpenSSL-to-RFC name tables (`_SSLV2_...`, `_TLS_...`, keyed per version by
  `_OPENSSL_TO_RFC_NAMES_MAPPING`), the RFC-name-to-key-size table and the hardcoded TLS 1.3 list,
  entry for entry and in the source's order;
* `isAnon`, Python's `"anon" in name`.

A Python dict literal is an association list here and `d[k]` is `List.lookup k d`: none of the three
literals repeats a key, so the first match is the dict's value. The facts about the tables that the
catalog proofs need are decided once, over the whole tables:

* section 4 -- key sizes, the TLS 1.3 names, the SSL 2.0 table;
* section 5 -- RFC names: the TLS table spells two suites twice (`rfcNameAliases`) and gives every
  other RFC name to one OpenSSL name (`tlsOpensslToRfcNamesMapping_rfcName_eq`); the SSL 2.0 table
  gives each RFC name once;
* section 6 -- anonymity: an RFC name of the tables contains `"anon"` exactly when OpenSSL's name
  for the suite starts `ADH-`, `AECDH-` or `EXP-ADH-` (`OpensslAnonymous`).
-/

namespace Sslyze.CipherSuites

/-! ## 1. Versions and records -/

/-- `sslyze.server_connectivity.TlsVersionEnum`: the six protocol versions the catalog is keyed
    by. -/
inductive TlsVersionEnum where
  | SSL_2_0
  | SSL_3_0
  | TLS_1_0
  | TLS_1_1
  | TLS_1_2
  | TLS_1_3
  deriving DecidableEq, Repr, Fintype

/-- `CipherSuite`: the RFC name, the OpenSSL name, whether the key exchange is anonymous, and the
    symmetric key size in bits. -/
structure CipherSuite where
  name : String
  opensslName : String
  isAnonymous : Bool
  keySize : Nat
  deriving DecidableEq, Repr

/-- Python's `"anon" in rfc_name`: `"anon"` occurs in the name as a contiguous run of
    characters. -/
def isAnon (rfcName : String) : Bool :=
  decide ("anon".toList <:+: rfcName.toList)

/-! ## 2. The name tables -/

/-- `_SSLV2_OPENSSL_TO_RFC_NAMES_MAPPING`. -/
def sslv2OpensslToRfcNamesMapping : List (String × String) := [
    ("RC4-MD5", "SSL_CK_RC4_128_WITH_MD5"),
    ("EXP-RC4-MD5", "SSL_CK_RC4_128_EXPORT40_WITH_MD5"),
    ("RC2-CBC-MD5", "SSL_CK_RC2_128_CBC_WITH_MD5"),
    ("EXP-RC2-CBC-MD5", "SSL_CK_RC2_128_CBC_EXPORT40_WITH_MD5"),
    ("IDEA-CBC-MD5", "SSL_CK_IDEA_128_CBC_WITH_MD5"),
    ("DES-CBC-MD5", "SSL_CK_DES_64_CBC_WITH_MD5"),
    ("DES-CBC3-MD5", "SSL_CK_DES_192_EDE3_CBC_WITH_MD5"),
    ("RC4-64-MD5", "SSL_CK_RC4_64_WITH_MD5"),
    ("NULL-MD5", "TLS_RSA_WITH_NULL_MD5")
  ]

/-- `_TLS_OPENSSL_TO_RFC_NAMES_MAPPING`, shared by SSL 3.0 up to TLS 1.2. -/
def tlsOpensslToRfcNamesMapping : List (String × String) := [
    ("NULL-MD5", "TLS_RSA_WITH_NULL_MD5"),
    ("NULL-SHA", "TLS_RSA_WITH_NULL_SHA"),
    ("EXP-RC4-MD5", "TLS_RSA_EXPORT_WITH_RC4_40_MD5"),
    ("RC4-MD5", "TLS_RSA_WITH_RC4_128_MD5"),
    ("RC4-SHA", "TLS_RSA_WITH_RC4_128_SHA"),
    ("EXP-RC2-CBC-MD5", "TLS_RSA_EXPORT_WITH_RC2_CBC_40_MD5"),
    ("IDEA-CBC-SHA", "TLS_RSA_WITH_IDEA_CBC_SHA"),
    ("EXP-DES-CBC-SHA", "TLS_RSA_EXPORT_WITH_DES40_CBC_SHA"),
    ("DES-CBC-SHA", "TLS_RSA_WITH_DES_CBC_SHA"),
    ("DES-CBC3-SHA", "TLS_RSA_WITH_3DES_EDE_CBC_SHA"),
    ("EXP-DH-DSS-DES-CBC-SHA", "TLS_DH_DSS_EXPORT_WITH_DES40_CBC_SHA"),
    ("DH-DSS-DES-CBC-SHA", "TLS_DH_DSS_WITH_DES_CBC_SHA"),
    ("DH-DSS-DES-CBC3-SHA", "TLS_DH_DSS_WITH_3DES_EDE_CBC_SHA"),
    ("EXP-DH-RSA-DES-CBC-SHA", "TLS_DH_RSA_EXPORT_WITH_DES40_CBC_SHA"),
    ("DH-RSA-DES-CBC-SHA", "TLS_DH_RSA_WITH_DES_CBC_SHA"),
    ("DH-RSA-DES-CBC3-SHA", "TLS_DH_RSA_WITH_3DES_EDE_CBC_SHA"),
    ("EXP-EDH-DSS-DES-CBC-SHA", "TLS_DHE_DSS_EXPORT_WITH_DES40_CBC_SHA"),
    ("EDH-DSS-DES-CBC-SHA", "TLS_DHE_DSS_WITH_DES_CBC_SHA"),
    ("EDH-DSS-DES-CBC3-SHA", "TLS_DHE_DSS_WITH_3DES_EDE_CBC_SHA"),
    ("EXP-EDH-RSA-DES-CBC-SHA", "TLS_DHE_RSA_EXPORT_WITH_DES40_CBC_SHA"),
    ("EDH-RSA-DES-CBC-SHA", "TLS_DHE_RSA_WITH_DES_CBC_SHA"),
    ("EDH-RSA-DES-CBC3-SHA", "TLS_DHE_RSA_WITH_3DES_EDE_CBC_SHA"),
    ("EXP-ADH-RC4-MD5", "TLS_DH_anon_EXPORT_WITH_RC4_40_MD5"),
    ("ADH-RC4-MD5", "TLS_DH_anon_WITH_RC4_128_MD5"),
    ("EXP-ADH-DES-CBC-SHA", "TLS_DH_anon_EXPORT_WITH_DES40_CBC_SHA"),
    ("ADH-DES-CBC-SHA", "TLS_DH_anon_WITH_DES_CBC_SHA"),
    ("ADH-DES-CBC3-SHA", "TLS_DH_anon_WITH_3DES_EDE_CBC_SHA"),
    ("KRB5-DES-CBC-SHA", "TLS_KRB5_WITH_DES_CBC_SHA"),
    ("KRB5-DES-CBC3-SHA", "TLS_KRB5_WITH_3DES_EDE_CBC_SHA"),
    ("KRB5-RC4-SHA", "TLS_KRB5_WITH_RC4_128_SHA"),
    ("KRB5-IDEA-CBC-SHA", "TLS_KRB5_WITH_IDEA_CBC_SHA"),
    ("KRB5-DES-CBC-MD5", "TLS_KRB5_WITH_DES_CBC_MD5"),
    ("KRB5-DES-CBC3-MD5", "TLS_KRB5_WITH_3DES_EDE_CBC_MD5"),
    ("KRB5-RC4-MD5", "TLS_KRB5_WITH_RC4_128_MD5"),
    ("KRB5-IDEA-CBC-MD5", "TLS_KRB5_WITH_IDEA_CBC_MD5"),
    ("EXP-KRB5-DES-CBC-SHA", "TLS_KRB5_EXPORT_WITH_DES_CBC_40_SHA"),
    ("EXP-KRB5-RC2-CBC-SHA", "TLS_KRB5_EXPORT_WITH_RC2_CBC_40_SHA"),
    ("EXP-KRB5-RC4-SHA", "TLS_KRB5_EXPORT_WITH_RC4_40_SHA"),
    ("EXP-KRB5-DES-CBC-MD5", "TLS_KRB5_EXPORT_WITH_DES_CBC_40_MD5"),
    ("EXP-KRB5-RC2-CBC-MD5", "TLS_KRB5_EXPORT_WITH_RC2_CBC_40_MD5"),
    ("EXP-KRB5-RC4-MD5", "TLS_KRB5_EXPORT_WITH_RC4_40_MD5"),
    ("AES128-SHA", "TLS_RSA_WITH_AES_128_CBC_SHA"),
    ("DH-DSS-AES128-SHA", "TLS_DH_DSS_WITH_AES_128_CBC_SHA"),
    ("DH-RSA-AES128-SHA", "TLS_DH_RSA_WITH_AES_128_CBC_SHA"),
    ("DHE-DSS-AES128-SHA", "TLS_DHE_DSS_WITH_AES_128_CBC_SHA"),
    ("DHE-RSA-AES128-SHA", "TLS_DHE_RSA_WITH_AES_128_CBC_SHA"),
    ("ADH-AES128-SHA", "TLS_DH_anon_WITH_AES_128_CBC_SHA"),
    ("AES256-SHA", "TLS_RSA_WITH_AES_256_CBC_SHA"),
    ("DH-DSS-AES256-SHA", "TLS_DH_DSS_WITH_AES_256_CBC_SHA"),
    ("DH-RSA-AES256-SHA", "TLS_DH_RSA_WITH_AES_256_CBC_SHA"),
    ("DHE-DSS-AES256-SHA", "TLS_DHE_DSS_WITH_AES_256_CBC_SHA"),
    ("DHE-RSA-AES256-SHA", "TLS_DHE_RSA_WITH_AES_256_CBC_SHA"),
    ("ADH-AES256-SHA", "TLS_DH_anon_WITH_AES_256_CBC_SHA"),
    ("NULL-SHA256", "TLS_RSA_WITH_NULL_SHA256"),
    ("AES128-SHA256", "TLS_RSA_WITH_AES_128_CBC_SHA256"),
    ("AES256-SHA256", "TLS_RSA_WITH_AES_256_CBC_SHA256"),
    ("DH-DSS-AES128-SHA256", "TLS_DH_DSS_WITH_AES_128_CBC_SHA256"),
    ("DH-RSA-AES128-SHA256", "TLS_DH_RSA_WITH_AES_128_CBC_SHA256"),
    ("DHE-DSS-AES128-SHA256", "TLS_DHE_DSS_WITH_AES_128_CBC_SHA256"),
    ("CAMELLIA128-SHA", "TLS_RSA_WITH_CAMELLIA_128_CBC_SHA"),
    ("DH-DSS-CAMELLIA128-SHA", "TLS_DH_DSS_WITH_CAMELLIA_128_CBC_SHA"),
    ("DH-RSA-CAMELLIA128-SHA", "TLS_DH_RSA_WITH_CAMELLIA_128_CBC_SHA"),
    ("DHE-DSS-CAMELLIA128-SHA", "TLS_DHE_DSS_WITH_CAMELLIA_128_CBC_SHA"),
    ("DHE-RSA-CAMELLIA128-SHA", "TLS_DHE_RSA_WITH_CAMELLIA_128_CBC_SHA"),
    ("ADH-CAMELLIA128-SHA", "TLS_DH_anon_WITH_CAMELLIA_128_CBC_SHA"),
    ("EXP1024-DES-CBC-SHA", "TLS_RSA_EXPORT1024_WITH_DES_CBC_SHA"),
    ("EXP1024-DHE-DSS-DES-CBC-SHA", "TLS_DHE_DSS_EXPORT1024_WITH_DES_CBC_SHA"),
    ("EXP1024-RC4-SHA", "TLS_RSA_EXPORT1024_WITH_RC4_56_SHA"),
    ("EXP1024-RC4-MD5", "TLS_RSA_EXPORT1024_WITH_RC4_56_MD5"),
    ("EXP1024-RC2-CBC-MD5", "TLS_RSA_EXPORT1024_WITH_RC2_CBC_56_MD5"),
    ("EXP1024-DHE-DSS-RC4-SHA", "TLS_DHE_DSS_EXPORT1024_WITH_RC4_56_SHA"),
    ("DHE-DSS-RC4-SHA", "TLS_DHE_DSS_WITH_RC4_128_SHA"),
    ("DHE-RSA-AES128-SHA256", "TLS_DHE_RSA_WITH_AES_128_CBC_SHA256"),
    ("DH-DSS-AES256-SHA256", "TLS_DH_DSS_WITH_AES_256_CBC_SHA256"),
    ("DH-RSA-AES256-SHA256", "TLS_DH_RSA_WITH_AES_256_CBC_SHA256"),
    ("DHE-DSS-AES256-SHA256", "TLS_DHE_DSS_WITH_AES_256_CBC_SHA256"),
    ("DHE-RSA-AES256-SHA256", "TLS_DHE_RSA_WITH_AES_256_CBC_SHA256"),
    ("ADH-AES128-SHA256", "TLS_DH_anon_WITH_AES_128_CBC_SHA256"),
    ("ADH-AES256-SHA256", "TLS_DH_anon_WITH_AES_256_CBC_SHA256"),
    ("GOST94-GOST89-GOST89", "TLS_GOSTR341094_WITH_28147_CNT_IMIT"),
    ("GOST2001-GOST89-GOST89", "TLS_GOSTR341001_WITH_28147_CNT_IMIT"),
    ("CAMELLIA256-SHA", "TLS_RSA_WITH_CAMELLIA_256_CBC_SHA"),
    ("DH-DSS-CAMELLIA256-SHA", "TLS_DH_DSS_WITH_CAMELLIA_256_CBC_SHA"),
    ("DH-RSA-CAMELLIA256-SHA", "TLS_DH_RSA_WITH_CAMELLIA_256_CBC_SHA"),
    ("DHE-DSS-CAMELLIA256-SHA", "TLS_DHE_DSS_WITH_CAMELLIA_256_CBC_SHA"),
    ("DHE-RSA-CAMELLIA256-SHA", "TLS_DHE_RSA_WITH_CAMELLIA_256_CBC_SHA"),
    ("ADH-CAMELLIA256-SHA", "TLS_DH_anon_WITH_CAMELLIA_256_CBC_SHA"),
    ("PSK-RC4-SHA", "TLS_PSK_WITH_RC4_128_SHA"),
    ("PSK-3DES-EDE-CBC-SHA", "TLS_PSK_WITH_3DES_EDE_CBC_SHA"),
    ("PSK-AES128-CBC-SHA", "TLS_PSK_WITH_AES_128_CBC_SHA"),
    ("PSK-AES256-CBC-SHA", "TLS_PSK_WITH_AES_256_CBC_SHA"),
    ("RSA-PSK-RC4-SHA", "TLS_RSA_PSK_WITH_RC4_128_SHA"),
    ("RSA-PSK-3DES-EDE-CBC-SHA", "TLS_RSA_PSK_WITH_3DES_EDE_CBC_SHA"),
    ("RSA-PSK-AES128-CBC-SHA", "TLS_RSA_PSK_WITH_AES_128_CBC_SHA"),
    ("RSA-PSK-AES256-CBC-SHA", "TLS_RSA_PSK_WITH_AES_256_CBC_SHA"),
    ("SEED-SHA", "TLS_RSA_WITH_SEED_CBC_SHA"),
    ("DH-DSS-SEED-SHA", "TLS_DH_DSS_WITH_SEED_CBC_SHA"),
    ("DH-RSA-SEED-SHA", "TLS_DH_RSA_WITH_SEED_CBC_SHA"),
    ("DHE-DSS-SEED-SHA", "TLS_DHE_DSS_WITH_SEED_CBC_SHA"),
    ("DHE-RSA-SEED-SHA", "TLS_DHE_RSA_WITH_SEED_CBC_SHA"),
    ("ADH-SEED-SHA", "TLS_DH_anon_WITH_SEED_CBC_SHA"),
    ("AES128-GCM-SHA256", "TLS_RSA_WITH_AES_128_GCM_SHA256"),
    ("AES256-GCM-SHA384", "TLS_RSA_WITH_AES_256_GCM_SHA384"),
    ("DHE-RSA-AES128-GCM-SHA256", "TLS_DHE_RSA_WITH_AES_128_GCM_SHA256"),
    ("DHE-RSA-AES256-GCM-SHA384", "TLS_DHE_RSA_WITH_AES_256_GCM_SHA384"),
    ("DH-RSA-AES128-GCM-SHA256", "TLS_DH_RSA_WITH_AES_128_GCM_SHA256"),
    ("DH-RSA-AES256-GCM-SHA384", "TLS_DH_RSA_WITH_AES_256_GCM_SHA384"),
    ("DHE-DSS-AES128-GCM-SHA256", "TLS_DHE_DSS_WITH_AES_128_GCM_SHA256"),
    ("DHE-DSS-AES256-GCM-SHA384", "TLS_DHE_DSS_WITH_AES_256_GCM_SHA384"),
    ("DH-DSS-AES128-GCM-SHA256", "TLS_DH_DSS_WITH_AES_128_GCM_SHA256"),
    ("DH-DSS-AES256-GCM-SHA384", "TLS_DH_DSS_WITH_AES_256_GCM_SHA384"),
    ("ADH-AES128-GCM-SHA256", "TLS_DH_anon_WITH_AES_128_GCM_SHA256"),
    ("ADH-AES256-GCM-SHA384", "TLS_DH_anon_WITH_AES_256_GCM_SHA384"),
    ("CAMELLIA128-SHA256", "TLS_RSA_WITH_CAMELLIA_128_CBC_SHA256"),
    ("DH-DSS-CAMELLIA128-SHA256", "TLS_DH_DSS_WITH_CAMELLIA_128_CBC_SHA256"),
    ("DH-RSA-CAMELLIA128-SHA256", "TLS_DH_RSA_WITH_CAMELLIA_128_CBC_SHA256"),
    ("DHE-DSS-CAMELLIA128-SHA256", "TLS_DHE_DSS_WITH_CAMELLIA_128_CBC_SHA256"),
    ("DHE-RSA-CAMELLIA128-SHA256", "TLS_DHE_RSA_WITH_CAMELLIA_128_CBC_SHA256"),
    ("ADH-CAMELLIA128-SHA256", "TLS_DH_anon_WITH_CAMELLIA_128_CBC_SHA256"),
    ("CAMELLIA256-SHA256", "TLS_RSA_WITH_CAMELLIA_256_CBC_SHA256"),
    ("DH-DSS-CAMELLIA256-SHA256", "TLS_DH_DSS_WITH_CAMELLIA_256_CBC_SHA256"),
    ("DH-RSA-CAMELLIA256-SHA256", "TLS_DH_RSA_WITH_CAMELLIA_256_CBC_SHA256"),
    ("DHE-DSS-CAMELLIA256-SHA256", "TLS_DHE_DSS_WITH_CAMELLIA_256_CBC_SHA256"),
    ("DHE-RSA-CAMELLIA256-SHA256", "TLS_DHE_RSA_WITH_CAMELLIA_256_CBC_SHA256"),
    ("ADH-CAMELLIA256-SHA256", "TLS_DH_anon_WITH_CAMELLIA_256_CBC_SHA256"),
    ("TLS_FALLBACK_SCSV", "TLS_FALLBACK_SCSV"),
    ("ECDH-ECDSA-NULL-SHA", "TLS_ECDH_ECDSA_WITH_NULL_SHA"),
    ("ECDH-ECDSA-RC4-SHA", "TLS_ECDH_ECDSA_WITH_RC4_128_SHA"),
    ("ECDH-ECDSA-DES-CBC3-SHA", "TLS_ECDH_ECDSA_WITH_3DES_EDE_CBC_SHA"),
    ("ECDH-ECDSA-AES128-SHA", "TLS_ECDH_ECDSA_WITH_AES_128_CBC_SHA"),
    ("ECDH-ECDSA-AES256-SHA", "TLS_ECDH_ECDSA_WITH_AES_256_CBC_SHA"),
    ("ECDHE-ECDSA-NULL-SHA", "TLS_ECDHE_ECDSA_WITH_NULL_SHA"),
    ("ECDHE-ECDSA-RC4-SHA", "TLS_ECDHE_ECDSA_WITH_RC4_128_SHA"),
    ("ECDHE-ECDSA-DES-CBC3-SHA", "TLS_ECDHE_ECDSA_WITH_3DES_EDE_CBC_SHA"),
    ("ECDHE-ECDSA-AES128-SHA", "TLS_ECDHE_ECDSA_WITH_AES_128_CBC_SHA"),
    ("ECDHE-ECDSA-AES256-SHA", "TLS_ECDHE_ECDSA_WITH_AES_256_CBC_SHA"),
    ("ECDH-RSA-NULL-SHA", "TLS_ECDH_RSA_WITH_NULL_SHA"),
    ("ECDH-RSA-RC4-SHA", "TLS_ECDH_RSA_WITH_RC4_128_SHA"),
    ("ECDH-RSA-DES-CBC3-SHA", "TLS_ECDH_RSA_WITH_3DES_EDE_CBC_SHA"),
    ("ECDH-RSA-AES128-SHA", "TLS_ECDH_RSA_WITH_AES_128_CBC_SHA"),
    ("ECDH-RSA-AES256-SHA", "TLS_ECDH_RSA_WITH_AES_256_CBC_SHA"),
    ("ECDHE-RSA-NULL-SHA", "TLS_ECDHE_RSA_WITH_NULL_SHA"),
    ("ECDHE-RSA-RC4-SHA", "TLS_ECDHE_RSA_WITH_RC4_128_SHA"),
    ("ECDHE-RSA-DES-CBC3-SHA", "TLS_ECDHE_RSA_WITH_3DES_EDE_CBC_SHA"),
    ("ECDHE-RSA-AES128-SHA", "TLS_ECDHE_RSA_WITH_AES_128_CBC_SHA"),
    ("ECDHE-RSA-AES256-SHA", "TLS_ECDHE_RSA_WITH_AES_256_CBC_SHA"),
    ("AECDH-NULL-SHA", "TLS_ECDH_anon_WITH_NULL_SHA"),
    ("AECDH-RC4-SHA", "TLS_ECDH_anon_WITH_RC4_128_SHA"),
    ("AECDH-DES-CBC3-SHA", "TLS_ECDH_anon_WITH_3DES_EDE_CBC_SHA"),
    ("AECDH-AES128-SHA", "TLS_ECDH_anon_WITH_AES_128_CBC_SHA"),
    ("AECDH-AES256-SHA", "TLS_ECDH_anon_WITH_AES_256_CBC_SHA"),
    ("SRP-3DES-EDE-CBC-SHA", "TLS_SRP_SHA_WITH_3DES_EDE_CBC_SHA"),
    ("SRP-RSA-3DES-EDE-CBC-SHA", "TLS_SRP_SHA_RSA_WITH_3DES_EDE_CBC_SHA"),
    ("SRP-DSS-3DES-EDE-CBC-SHA", "TLS_SRP_SHA_DSS_WITH_3DES_EDE_CBC_SHA"),
    ("SRP-AES-128-CBC-SHA", "TLS_SRP_SHA_WITH_AES_128_CBC_SHA"),
    ("SRP-RSA-AES-128-CBC-SHA", "TLS_SRP_SHA_RSA_WITH_AES_128_CBC_SHA"),
    ("SRP-DSS-AES-128-CBC-SHA", "TLS_SRP_SHA_DSS_WITH_AES_128_CBC_SHA"),
    ("SRP-AES-256-CBC-SHA", "TLS_SRP_SHA_WITH_AES_256_CBC_SHA"),
    ("SRP-RSA-AES-256-CBC-SHA", "TLS_SRP_SHA_RSA_WITH_AES_256_CBC_SHA"),
    ("SRP-DSS-AES-256-CBC-SHA", "TLS_SRP_SHA_DSS_WITH_AES_256_CBC_SHA"),
    ("ECDHE-ECDSA-AES128-SHA256", "TLS_ECDHE_ECDSA_WITH_AES_128_CBC_SHA256"),
    ("ECDHE-ECDSA-AES256-SHA384", "TLS_ECDHE_ECDSA_WITH_AES_256_CBC_SHA384"),
    ("ECDH-ECDSA-AES128-SHA256", "TLS_ECDH_ECDSA_WITH_AES_128_CBC_SHA256"),
    ("ECDH-ECDSA-AES256-SHA384", "TLS_ECDH_ECDSA_WITH_AES_256_CBC_SHA384"),
    ("ECDHE-RSA-AES128-SHA256", "TLS_ECDHE_RSA_WITH_AES_128_CBC_SHA256"),
    ("ECDHE-RSA-AES256-SHA384", "TLS_ECDHE_RSA_WITH_AES_256_CBC_SHA384"),
    ("ECDH-RSA-AES128-SHA256", "TLS_ECDH_RSA_WITH_AES_128_CBC_SHA256"),
    ("ECDH-RSA-AES256-SHA384", "TLS_ECDH_RSA_WITH_AES_256_CBC_SHA384"),
    ("ECDHE-ECDSA-AES128-GCM-SHA256", "TLS_ECDHE_ECDSA_WITH_AES_128_GCM_SHA256"),
    ("ECDHE-ECDSA-AES256-GCM-SHA384", "TLS_ECDHE_ECDSA_WITH_AES_256_GCM_SHA384"),
    ("ECDH-ECDSA-AES128-GCM-SHA256", "TLS_ECDH_ECDSA_WITH_AES_128_GCM_SHA256"),
    ("ECDH-ECDSA-AES256-GCM-SHA384", "TLS_ECDH_ECDSA_WITH_AES_256_GCM_SHA384"),
    ("ECDHE-RSA-AES128-GCM-SHA256", "TLS_ECDHE_RSA_WITH_AES_128_GCM_SHA256"),
    ("ECDHE-RSA-AES256-GCM-SHA384", "TLS_ECDHE_RSA_WITH_AES_256_GCM_SHA384"),
    ("ECDH-RSA-AES128-GCM-SHA256", "TLS_ECDH_RSA_WITH_AES_128_GCM_SHA256"),
    ("ECDH-RSA-AES256-GCM-SHA384", "TLS_ECDH_RSA_WITH_AES_256_GCM_SHA384"),
    ("ECDHE-ECDSA-CAMELLIA128-SHA256", "TLS_ECDHE_ECDSA_WITH_CAMELLIA_128_CBC_SHA256"),
    ("ECDHE-ECDSA-CAMELLIA256-SHA384", "TLS_ECDHE_ECDSA_WITH_CAMELLIA_256_CBC_SHA384"),
    ("ECDH-ECDSA-CAMELLIA128-SHA256", "TLS_ECDH_ECDSA_WITH_CAMELLIA_128_CBC_SHA256"),
    ("ECDH-ECDSA-CAMELLIA256-SHA384", "TLS_ECDH_ECDSA_WITH_CAMELLIA_256_CBC_SHA384"),
    ("ECDHE-RSA-CAMELLIA128-SHA256", "TLS_ECDHE_RSA_WITH_CAMELLIA_128_CBC_SHA256"),
    ("ECDHE-RSA-CAMELLIA256-SHA384", "TLS_ECDHE_RSA_WITH_CAMELLIA_256_CBC_SHA384"),
    ("ECDH-RSA-CAMELLIA128-SHA256", "TLS_ECDH_RSA_WITH_CAMELLIA_128_CBC_SHA256"),
    ("ECDH-RSA-CAMELLIA256-SHA384", "TLS_ECDH_RSA_WITH_CAMELLIA_256_CBC_SHA384"),
    ("ECDHE-RSA-CHACHA20-POLY1305", "TLS_ECDHE_RSA_WITH_CHACHA20_POLY1305_SHA256"),
    ("ECDHE-ECDSA-CHACHA20-POLY1305", "TLS_ECDHE_ECDSA_WITH_CHACHA20_POLY1305_SHA256"),
    ("DHE-RSA-CHACHA20-POLY1305", "TLS_DHE_RSA_WITH_CHACHA20_POLY1305_SHA256"),
    ("ECDHE-RSA-CHACHA20-POLY1305-OLD", "OLD_TLS_ECDHE_RSA_WITH_CHACHA20_POLY1305_SHA256"),
    ("ECDHE-ECDSA-CHACHA20-POLY1305-OLD", "OLD_TLS_ECDHE_ECDSA_WITH_CHACHA20_POLY1305_SHA256"),
    ("DHE-RSA-CHACHA20-POLY1305-OLD", "OLD_TLS_DHE_RSA_WITH_CHACHA20_POLY1305_SHA256"),
    ("DHE-RSA-DES-CBC3-SHA", "TLS_DHE_RSA_WITH_3DES_EDE_CBC_SHA"),
    ("DHE-DSS-DES-CBC3-SHA", "TLS_DHE_DSS_WITH_3DES_EDE_CBC_SHA"),
    ("AES128-CCM", "TLS_RSA_WITH_AES_128_CCM"),
    ("AES256-CCM", "TLS_RSA_WITH_AES_256_CCM"),
    ("DHE-RSA-AES128-CCM", "TLS_DHE_RSA_WITH_AES_128_CCM"),
    ("DHE-RSA-AES256-CCM", "TLS_DHE_RSA_WITH_AES_256_CCM"),
    ("AES128-CCM8", "TLS_RSA_WITH_AES_128_CCM_8"),
    ("AES256-CCM8", "TLS_RSA_WITH_AES_256_CCM_8"),
    ("DHE-RSA-AES128-CCM8", "TLS_DHE_RSA_WITH_AES_128_CCM_8"),
    ("DHE-RSA-AES256-CCM8", "TLS_DHE_RSA_WITH_AES_256_CCM_8"),
    ("ECDHE-ECDSA-AES128-CCM", "TLS_ECDHE_ECDSA_WITH_AES_128_CCM"),
    ("ECDHE-ECDSA-AES256-CCM", "TLS_ECDHE_ECDSA_WITH_AES_256_CCM"),
    ("ECDHE-ECDSA-AES128-CCM8", "TLS_ECDHE_ECDSA_WITH_AES_128_CCM_8"),
    ("ECDHE-ECDSA-AES256-CCM8", "TLS_ECDHE_ECDSA_WITH_AES_256_CCM_8"),
    ("ARIA128-GCM-SHA256", "TLS_RSA_WITH_ARIA_128_GCM_SHA256"),
    ("ARIA256-GCM-SHA384", "TLS_RSA_WITH_ARIA_256_GCM_SHA384"),
    ("DHE-DSS-ARIA128-GCM-SHA256", "TLS_DHE_DSS_WITH_ARIA_128_GCM_SHA256"),
    ("DHE-DSS-ARIA256-GCM-SHA384", "TLS_DHE_DSS_WITH_ARIA_256_GCM_SHA384"),
    ("DHE-PSK-3DES-EDE-CBC-SHA", "TLS_DHE_PSK_WITH_3DES_EDE_CBC_SHA"),
    ("DHE-PSK-AES128-CBC-SHA", "TLS_DHE_PSK_WITH_AES_128_CBC_SHA"),
    ("DHE-PSK-AES128-CBC-SHA256", "TLS_DHE_PSK_WITH_AES_128_CBC_SHA256"),
    ("DHE-PSK-AES128-CCM", "TLS_DHE_PSK_WITH_AES_128_CCM"),
    ("DHE-PSK-AES128-CCM8", "TLS_PSK_DHE_WITH_AES_128_CCM_8"),
    ("DHE-PSK-AES128-GCM-SHA256", "TLS_DHE_PSK_WITH_AES_128_GCM_SHA256"),
    ("DHE-PSK-AES256-CBC-SHA", "TLS_DHE_PSK_WITH_AES_256_CBC_SHA"),
    ("DHE-PSK-AES256-CBC-SHA384", "TLS_DHE_PSK_WITH_AES_256_CBC_SHA384"),
    ("DHE-PSK-AES256-CCM", "TLS_DHE_PSK_WITH_AES_256_CCM"),
    ("DHE-PSK-AES256-CCM8", "TLS_PSK_DHE_WITH_AES_256_CCM_8"),
    ("DHE-PSK-AES256-GCM-SHA384", "TLS_DHE_PSK_WITH_AES_256_GCM_SHA384"),
    ("DHE-PSK-ARIA128-GCM-SHA256", "TLS_DHE_PSK_WITH_ARIA_128_GCM_SHA256"),
    ("DHE-PSK-ARIA256-GCM-SHA384", "TLS_DHE_PSK_WITH_ARIA_256_GCM_SHA384"),
    ("DHE-PSK-CAMELLIA128-SHA256", "TLS_DHE_PSK_WITH_CAMELLIA_128_CBC_SHA256"),
    ("DHE-PSK-CAMELLIA256-SHA384", "TLS_DHE_PSK_WITH_CAMELLIA_256_CBC_SHA384"),
    ("DHE-PSK-CHACHA20-POLY1305", "TLS_DHE_PSK_WITH_CHACHA20_POLY1305_SHA256"),
    ("DHE-PSK-NULL-SHA", "TLS_DHE_PSK_WITH_NULL_SHA"),
    ("DHE-PSK-NULL-SHA256", "TLS_DHE_PSK_WITH_NULL_SHA256"),
    ("DHE-PSK-NULL-SHA384", "TLS_DHE_PSK_WITH_NULL_SHA384"),
    ("DHE-PSK-RC4-SHA", "TLS_DHE_PSK_WITH_RC4_128_SHA"),
    ("DHE-RSA-ARIA128-GCM-SHA256", "TLS_DHE_RSA_WITH_ARIA_128_GCM_SHA256"),
    ("DHE-RSA-ARIA256-GCM-SHA384", "TLS_DHE_RSA_WITH_ARIA_256_GCM_SHA384"),
    ("ECDHE-ARIA128-GCM-SHA256", "TLS_ECDHE_RSA_WITH_ARIA_128_GCM_SHA256"),
    ("ECDHE-ARIA256-GCM-SHA384", "TLS_ECDHE_RSA_WITH_ARIA_256_GCM_SHA384"),
    ("ECDHE-ECDSA-ARIA128-GCM-SHA256", "TLS_ECDHE_ECDSA_WITH_ARIA_128_GCM_SHA256"),
    ("ECDHE-ECDSA-ARIA256-GCM-SHA384", "TLS_ECDHE_ECDSA_WITH_ARIA_256_GCM_SHA384"),
    ("ECDHE-PSK-3DES-EDE-CBC-SHA", "TLS_ECDHE_PSK_WITH_3DES_EDE_CBC_SHA"),
    ("ECDHE-PSK-AES128-CBC-SHA", "TLS_ECDHE_PSK_WITH_AES_128_CBC_SHA"),
    ("ECDHE-PSK-AES128-CBC-SHA256", "TLS_ECDHE_PSK_WITH_AES_128_CBC_SHA256"),
    ("ECDHE-PSK-AES256-CBC-SHA", "TLS_ECDHE_PSK_WITH_AES_256_CBC_SHA"),
    ("ECDHE-PSK-AES256-CBC-SHA384", "TLS_ECDHE_PSK_WITH_AES_256_CBC_SHA384"),
    ("ECDHE-PSK-CAMELLIA128-SHA256", "TLS_ECDHE_PSK_WITH_CAMELLIA_128_CBC_SHA256"),
    ("ECDHE-PSK-CAMELLIA256-SHA384", "TLS_ECDHE_PSK_WITH_CAMELLIA_256_CBC_SHA384"),
    ("ECDHE-PSK-CHACHA20-POLY1305", "TLS_ECDHE_PSK_WITH_CHACHA20_POLY1305_SHA256"),
    ("ECDHE-PSK-NULL-SHA", "TLS_ECDHE_PSK_WITH_NULL_SHA"),
    ("ECDHE-PSK-NULL-SHA256", "TLS_ECDHE_PSK_WITH_NULL_SHA256"),
    ("ECDHE-PSK-NULL-SHA384", "TLS_ECDHE_PSK_WITH_NULL_SHA384"),
    ("ECDHE-PSK-RC4-SHA", "TLS_ECDHE_PSK_WITH_RC4_128_SHA"),
    ("GOST2001-NULL-GOST94", "TLS_GOSTR341001_WITH_NULL_GOSTR3411"),
    ("GOST94-NULL-GOST94", "TLS_GOSTR341094_WITH_NULL_GOSTR3411"),
    ("PSK-AES128-CBC-SHA256", "TLS_PSK_WITH_AES_128_CBC_SHA256"),
    ("PSK-AES128-CCM", "TLS_PSK_WITH_AES_128_CCM"),
    ("PSK-AES128-CCM8", "TLS_PSK_WITH_AES_128_CCM_8"),
    ("PSK-AES128-GCM-SHA256", "TLS_PSK_WITH_AES_128_GCM_SHA256"),
    ("PSK-AES256-CBC-SHA384", "TLS_PSK_WITH_AES_256_CBC_SHA384"),
    ("PSK-AES256-CCM", "TLS_PSK_WITH_AES_256_CCM"),
    ("PSK-AES256-CCM8", "TLS_PSK_WITH_AES_256_CCM_8"),
    ("PSK-AES256-GCM-SHA384", "TLS_PSK_WITH_AES_256_GCM_SHA384"),
    ("PSK-ARIA128-GCM-SHA256", "TLS_PSK_WITH_ARIA_128_GCM_SHA256"),
    ("PSK-ARIA256-GCM-SHA384", "TLS_PSK_WITH_ARIA_256_GCM_SHA384"),
    ("PSK-CAMELLIA128-SHA256", "TLS_PSK_WITH_CAMELLIA_128_CBC_SHA256"),
    ("PSK-CAMELLIA256-SHA384", "TLS_PSK_WITH_CAMELLIA_256_CBC_SHA384"),
    ("PSK-CHACHA20-POLY1305", "TLS_PSK_WITH_CHACHA20_POLY1305_SHA256"),
    ("PSK-NULL-SHA", "TLS_PSK_WITH_NULL_SHA"),
    ("PSK-NULL-SHA256", "TLS_PSK_WITH_NULL_SHA256"),
    ("PSK-NULL-SHA384", "TLS_PSK_WITH_NULL_SHA384"),
    ("RSA-PSK-AES128-CBC-SHA256", "TLS_RSA_PSK_WITH_AES_128_CBC_SHA256"),
    ("RSA-PSK-AES128-GCM-SHA256", "TLS_RSA_PSK_WITH_AES_128_GCM_SHA256"),
    ("RSA-PSK-AES256-CBC-SHA384", "TLS_RSA_PSK_WITH_AES_256_CBC_SHA384"),
    ("RSA-PSK-AES256-GCM-SHA384", "TLS_RSA_PSK_WITH_AES_256_GCM_SHA384"),
    ("RSA-PSK-ARIA128-GCM-SHA256", "TLS_RSA_PSK_WITH_ARIA_128_GCM_SHA256"),
    ("RSA-PSK-ARIA256-GCM-SHA384", "TLS_RSA_PSK_WITH_ARIA_256_GCM_SHA384"),
    ("RSA-PSK-CAMELLIA128-SHA256", "TLS_RSA_PSK_WITH_CAMELLIA_128_CBC_SHA256"),
    ("RSA-PSK-CAMELLIA256-SHA384", "TLS_RSA_PSK_WITH_CAMELLIA_256_CBC_SHA384"),
    ("RSA-PSK-CHACHA20-POLY1305", "TLS_RSA_PSK_WITH_CHACHA20_POLY1305_SHA256"),
    ("RSA-PSK-NULL-SHA", "TLS_RSA_PSK_WITH_NULL_SHA"),
    ("RSA-PSK-NULL-SHA256", "TLS_RSA_PSK_WITH_NULL_SHA256"),
    ("RSA-PSK-NULL-SHA384", "TLS_RSA_PSK_WITH_NULL_SHA384")
  ]

/-- `_OPENSSL_TO_RFC_NAMES_MAPPING`: the dict from a version to its name table. TLS 1.3 is no key
    of it (`none`). -/
def opensslToRfcNamesMapping : TlsVersionEnum → Option (List (String × String))
  | .SSL_2_0 => some sslv2OpensslToRfcNamesMapping
  | .SSL_3_0 => some tlsOpensslToRfcNamesMapping
  | .TLS_1_0 => some tlsOpensslToRfcNamesMapping
  | .TLS_1_1 => some tlsOpensslToRfcNamesMapping
  | .TLS_1_2 => some tlsOpensslToRfcNamesMapping
  | .TLS_1_3 => none

/-! ## 3. Key sizes and the TLS 1.3 suites -/

/-- `_RFC_NAME_TO_KEY_SIZE_MAPPING`. -/
def rfcNameToKeySizeMapping : List (String × Nat) := [
    ("TLS_RSA_WITH_NULL_MD5", 0),
    ("TLS_RSA_WITH_NULL_SHA", 0),
    ("TLS_RSA_WITH_AES_128_CBC_SHA", 128),
    ("TLS_DHE_DSS_WITH_AES_128_CBC_SHA", 128),
    ("TLS_DHE_RSA_WITH_AES_128_CBC_SHA", 128),
    ("TLS_DH_anon_WITH_AES_128_CBC_SHA", 128),
    ("TLS_RSA_WITH_AES_256_CBC_SHA", 256),
    ("TLS_DHE_DSS_WITH_AES_256_CBC_SHA", 256),
    ("TLS_DHE_RSA_WITH_AES_256_CBC_SHA", 256),
    ("TLS_DH_anon_WITH_AES_256_CBC_SHA", 256),
    ("TLS_RSA_WITH_NULL_SHA256", 0),
    ("TLS_RSA_WITH_AES_128_CBC_SHA256", 128),
    ("TLS_RSA_WITH_AES_256_CBC_SHA256", 256),
    ("TLS_DHE_DSS_WITH_AES_128_CBC_SHA256", 128),
    ("TLS_RSA_WITH_CAMELLIA_128_CBC_SHA", 128),
    ("TLS_DHE_DSS_WITH_CAMELLIA_128_CBC_SHA", 128),
    ("TLS_DHE_RSA_WITH_CAMELLIA_128_CBC_SHA", 128),
    ("TLS_DH_anon_WITH_CAMELLIA_128_CBC_SHA", 128),
    ("TLS_DHE_RSA_WITH_AES_128_CBC_SHA256", 128),
    ("TLS_DHE_DSS_WITH_AES_256_CBC_SHA256", 256),
    ("TLS_DHE_RSA_WITH_AES_256_CBC_SHA256", 256),
    ("TLS_DH_anon_WITH_AES_128_CBC_SHA256", 128),
    ("TLS_DH_anon_WITH_AES_256_CBC_SHA256", 256),
    ("TLS_RSA_WITH_CAMELLIA_256_CBC_SHA", 256),
    ("TLS_DHE_DSS_WITH_CAMELLIA_256_CBC_SHA", 256),
    ("TLS_DHE_RSA_WITH_CAMELLIA_256_CBC_SHA", 256),
    ("TLS_DH_anon_WITH_CAMELLIA_256_CBC_SHA", 256),
    ("TLS_PSK_WITH_AES_128_CBC_SHA", 128),
    ("TLS_PSK_WITH_AES_256_CBC_SHA", 256),
    ("TLS_RSA_PSK_WITH_AES_128_CBC_SHA", 128),
    ("TLS_RSA_PSK_WITH_AES_256_CBC_SHA", 256),
    ("TLS_RSA_WITH_SEED_CBC_SHA", 128),
    ("TLS_DHE_DSS_WITH_SEED_CBC_SHA", 128),
    ("TLS_DHE_RSA_WITH_SEED_CBC_SHA", 128),
    ("TLS_DH_anon_WITH_SEED_CBC_SHA", 128),
    ("TLS_RSA_WITH_AES_128_GCM_SHA256", 128),
    ("TLS_RSA_WITH_AES_256_GCM_SHA384", 256),
    ("TLS_DHE_RSA_WITH_AES_128_GCM_SHA256", 128),
    ("TLS_DHE_RSA_WITH_AES_256_GCM_SHA384", 256),
    ("TLS_DHE_DSS_WITH_AES_128_GCM_SHA256", 128),
    ("TLS_DHE_DSS_WITH_AES_256_GCM_SHA384", 256),
    ("TLS_DH_anon_WITH_AES_128_GCM_SHA256", 128),
    ("TLS_DH_anon_WITH_AES_256_GCM_SHA384", 256),
    ("TLS_RSA_WITH_CAMELLIA_128_CBC_SHA256", 128),
    ("TLS_DHE_DSS_WITH_CAMELLIA_128_CBC_SHA256", 128),
    ("TLS_DHE_RSA_WITH_CAMELLIA_128_CBC_SHA256", 128),
    ("TLS_DH_anon_WITH_CAMELLIA_128_CBC_SHA256", 128),
    ("TLS_RSA_WITH_CAMELLIA_256_CBC_SHA256", 256),
    ("TLS_DHE_DSS_WITH_CAMELLIA_256_CBC_SHA256", 256),
    ("TLS_DHE_RSA_WITH_CAMELLIA_256_CBC_SHA256", 256),
    ("TLS_DH_anon_WITH_CAMELLIA_256_CBC_SHA256", 256),
    ("TLS_ECDHE_ECDSA_WITH_NULL_SHA", 0),
    ("TLS_ECDHE_ECDSA_WITH_AES_128_CBC_SHA", 128),
    ("TLS_ECDHE_ECDSA_WITH_AES_256_CBC_SHA", 256),
    ("TLS_ECDHE_RSA_WITH_NULL_SHA", 0),
    ("TLS_ECDHE_RSA_WITH_AES_128_CBC_SHA", 128),
    ("TLS_ECDHE_RSA_WITH_AES_256_CBC_SHA", 256),
    ("TLS_ECDH_anon_WITH_NULL_SHA", 0),
    ("TLS_ECDH_anon_WITH_AES_128_CBC_SHA", 128),
    ("TLS_ECDH_anon_WITH_AES_256_CBC_SHA", 256),
    ("TLS_SRP_SHA_WITH_AES_128_CBC_SHA", 128),
    ("TLS_SRP_SHA_RSA_WITH_AES_128_CBC_SHA", 128),
    ("TLS_SRP_SHA_DSS_WITH_AES_128_CBC_SHA", 128),
    ("TLS_SRP_SHA_WITH_AES_256_CBC_SHA", 256),
    ("TLS_SRP_SHA_RSA_WITH_AES_256_CBC_SHA", 256),
    ("TLS_SRP_SHA_DSS_WITH_AES_256_CBC_SHA", 256),
    ("TLS_ECDHE_ECDSA_WITH_AES_128_CBC_SHA256", 128),
    ("TLS_ECDHE_ECDSA_WITH_AES_256_CBC_SHA384", 256),
    ("TLS_ECDHE_RSA_WITH_AES_128_CBC_SHA256", 128),
    ("TLS_ECDHE_RSA_WITH_AES_256_CBC_SHA384", 256),
    ("TLS_ECDHE_ECDSA_WITH_AES_128_GCM_SHA256", 128),
    ("TLS_ECDHE_ECDSA_WITH_AES_256_GCM_SHA384", 256),
    ("TLS_ECDHE_RSA_WITH_AES_128_GCM_SHA256", 128),
    ("TLS_ECDHE_RSA_WITH_AES_256_GCM_SHA384", 256),
    ("TLS_ECDHE_ECDSA_WITH_CAMELLIA_128_CBC_SHA256", 128),
    ("TLS_ECDHE_ECDSA_WITH_CAMELLIA_256_CBC_SHA384", 256),
    ("TLS_ECDHE_RSA_WITH_CAMELLIA_128_CBC_SHA256", 128),
    ("TLS_ECDHE_RSA_WITH_CAMELLIA_256_CBC_SHA384", 256),
    ("TLS_ECDHE_RSA_WITH_CHACHA20_POLY1305_SHA256", 256),
    ("TLS_ECDHE_ECDSA_WITH_CHACHA20_POLY1305_SHA256", 256),
    ("TLS_DHE_RSA_WITH_CHACHA20_POLY1305_SHA256", 256),
    ("RSA_WITH_AES_128_CCM", 128),
    ("RSA_WITH_AES_256_CCM", 256),
    ("DHE_RSA_WITH_AES_128_CCM", 128),
    ("TLS_DHE_RSA_WITH_AES_256_CCM", 256),
    ("RSA_WITH_AES_128_CCM_8", 128),
    ("RSA_WITH_AES_256_CCM_8", 256),
    ("DHE_RSA_WITH_AES_128_CCM_8", 128),
    ("DHE_RSA_WITH_AES_256_CCM_8", 256),
    ("ECDHE_ECDSA_WITH_AES_128_CCM", 128),
    ("ECDHE_ECDSA_WITH_AES_256_CCM", 256),
    ("ECDHE_ECDSA_WITH_AES_128_CCM_8", 128),
    ("ECDHE_ECDSA_WITH_AES_256_CCM_8", 256),
    ("TLS_RSA_WITH_RC4_128_SHA", 128),
    ("TLS_RSA_WITH_IDEA_CBC_SHA", 128),
    ("TLS_RSA_EXPORT_WITH_DES40_CBC_SHA", 40),
    ("TLS_RSA_WITH_DES_CBC_SHA", 56),
    ("TLS_RSA_WITH_3DES_EDE_CBC_SHA", 168),
    ("TLS_DH_DSS_WITH_DES_CBC_SHA", 56),
    ("TLS_DH_DSS_WITH_3DES_EDE_CBC_SHA", 168),
    ("TLS_DH_RSA_WITH_DES_CBC_SHA", 56),
    ("TLS_DH_RSA_WITH_3DES_EDE_CBC_SHA", 168),
    ("TLS_DHE_DSS_EXPORT_WITH_DES40_CBC_SHA", 40),
    ("TLS_DHE_DSS_WITH_DES_CBC_SHA", 56),
    ("TLS_DHE_DSS_WITH_3DES_EDE_CBC_SHA", 168),
    ("TLS_DHE_RSA_EXPORT_WITH_DES40_CBC_SHA", 40),
    ("TLS_DHE_RSA_WITH_DES_CBC_SHA", 56),
    ("TLS_DHE_RSA_WITH_3DES_EDE_CBC_SHA", 168),
    ("TLS_DH_anon_EXPORT_WITH_RC4_40_MD5", 40),
    ("TLS_DH_anon_WITH_RC4_128_MD5", 128),
    ("TLS_DH_anon_EXPORT_WITH_DES40_CBC_SHA", 40),
    ("TLS_DH_anon_WITH_DES_CBC_SHA", 56),
    ("TLS_DH_anon_WITH_3DES_EDE_CBC_SHA", 168),
    ("TLS_DH_DSS_WITH_AES_128_CBC_SHA", 128),
    ("TLS_DH_RSA_WITH_AES_128_CBC_SHA", 128),
    ("TLS_DH_DSS_WITH_AES_256_CBC_SHA", 256),
    ("TLS_DH_RSA_WITH_AES_256_CBC_SHA", 256),
    ("TLS_DH_DSS_WITH_AES_128_CBC_SHA256", 128),
    ("TLS_DH_RSA_WITH_AES_128_CBC_SHA256", 128),
    ("TLS_DH_DSS_WITH_CAMELLIA_128_CBC_SHA", 128),
    ("TLS_DH_RSA_WITH_CAMELLIA_128_CBC_SHA", 128),
    ("TLS_DH_DSS_WITH_AES_256_CBC_SHA256", 256),
    ("TLS_DH_RSA_WITH_AES_256_CBC_SHA256", 256),
    ("TLS_DH_DSS_WITH_CAMELLIA_256_CBC_SHA", 256),
    ("TLS_DH_RSA_WITH_CAMELLIA_256_CBC_SHA", 256),
    ("TLS_PSK_WITH_RC4_128_SHA", 128),
    ("TLS_PSK_WITH_3DES_EDE_CBC_SHA", 168),
    ("TLS_DH_DSS_WITH_SEED_CBC_SHA", 128),
    ("TLS_DH_RSA_WITH_SEED_CBC_SHA", 128),
    ("TLS_DH_RSA_WITH_AES_128_GCM_SHA256", 128),
    ("TLS_DH_RSA_WITH_AES_256_GCM_SHA384", 256),
    ("TLS_DH_DSS_WITH_AES_128_GCM_SHA256", 128),
    ("TLS_DH_DSS_WITH_AES_256_GCM_SHA384", 256),
    ("TLS_ECDH_ECDSA_WITH_NULL_SHA", 0),
    ("TLS_ECDH_ECDSA_WITH_RC4_128_SHA", 128),
    ("TLS_ECDH_ECDSA_WITH_3DES_EDE_CBC_SHA", 168),
    ("TLS_ECDH_ECDSA_WITH_AES_128_CBC_SHA", 128),
    ("TLS_ECDH_ECDSA_WITH_AES_256_CBC_SHA", 256),
    ("TLS_ECDHE_ECDSA_WITH_RC4_128_SHA", 128),
    ("TLS_ECDHE_ECDSA_WITH_3DES_EDE_CBC_SHA", 168),
    ("TLS_ECDH_RSA_WITH_NULL_SHA", 0),
    ("TLS_ECDH_RSA_WITH_RC4_128_SHA", 128),
    ("TLS_ECDH_RSA_WITH_3DES_EDE_CBC_SHA", 168),
    ("TLS_ECDH_RSA_WITH_AES_128_CBC_SHA", 128),
    ("TLS_ECDH_RSA_WITH_AES_256_CBC_SHA", 256),
    ("TLS_ECDHE_RSA_WITH_RC4_128_SHA", 128),
    ("TLS_ECDHE_RSA_WITH_3DES_EDE_CBC_SHA", 168),
    ("TLS_ECDH_anon_WITH_RC4_128_SHA", 128),
    ("TLS_ECDH_anon_WITH_3DES_EDE_CBC_SHA", 168),
    ("TLS_SRP_SHA_WITH_3DES_EDE_CBC_SHA", 168),
    ("TLS_SRP_SHA_RSA_WITH_3DES_EDE_CBC_SHA", 168),
    ("TLS_SRP_SHA_DSS_WITH_3DES_EDE_CBC_SHA", 168),
    ("TLS_ECDH_ECDSA_WITH_AES_128_CBC_SHA256", 128),
    ("TLS_ECDH_ECDSA_WITH_AES_256_CBC_SHA384", 256),
    ("TLS_ECDH_RSA_WITH_AES_128_CBC_SHA256", 128),
    ("TLS_ECDH_RSA_WITH_AES_256_CBC_SHA384", 256),
    ("TLS_ECDH_ECDSA_WITH_AES_128_GCM_SHA256", 128),
    ("TLS_ECDH_ECDSA_WITH_AES_256_GCM_SHA384", 256),
    ("TLS_ECDH_RSA_WITH_AES_128_GCM_SHA256", 128),
    ("TLS_ECDH_RSA_WITH_AES_256_GCM_SHA384", 256),
    ("TLS_RSA_EXPORT_WITH_RC4_40_MD5", 40),
    ("TLS_RSA_WITH_RC4_128_MD5", 128),
    ("TLS_RSA_EXPORT_WITH_RC2_CBC_40_MD5", 40),
    ("TLS_DH_DSS_EXPORT_WITH_DES40_CBC_SHA", 40),
    ("TLS_DH_RSA_EXPORT_WITH_DES40_CBC_SHA", 40),
    ("TLS_KRB5_WITH_RC4_128_SHA", 128),
    ("TLS_KRB5_WITH_RC4_128_MD5", 128),
    ("TLS_KRB5_EXPORT_WITH_DES_CBC_40_SHA", 40),
    ("TLS_KRB5_EXPORT_WITH_RC2_CBC_40_SHA", 40),
    ("TLS_KRB5_EXPORT_WITH_RC4_40_SHA", 40),
    ("TLS_KRB5_EXPORT_WITH_DES_CBC_40_MD5", 40),
    ("TLS_KRB5_EXPORT_WITH_RC2_CBC_40_MD5", 40),
    ("TLS_KRB5_EXPORT_WITH_RC4_40_MD5", 40),
    ("TLS_RSA_EXPORT1024_WITH_RC4_56_SHA", 56),
    ("TLS_RSA_EXPORT1024_WITH_RC4_56_MD5", 56),
    ("TLS_RSA_EXPORT1024_WITH_RC2_CBC_56_MD5", 56),
    ("TLS_DHE_DSS_EXPORT1024_WITH_RC4_56_SHA", 56),
    ("TLS_DHE_DSS_WITH_RC4_128_SHA", 128),
    ("TLS_RSA_PSK_WITH_RC4_128_SHA", 128),
    ("TLS_DH_DSS_WITH_CAMELLIA_128_CBC_SHA256", 128),
    ("TLS_DH_RSA_WITH_CAMELLIA_128_CBC_SHA256", 128),
    ("TLS_DH_DSS_WITH_CAMELLIA_256_CBC_SHA256", 256),
    ("TLS_DH_RSA_WITH_CAMELLIA_256_CBC_SHA256", 256),
    ("TLS_ECDH_ECDSA_WITH_CAMELLIA_128_CBC_SHA256", 128),
    ("TLS_ECDH_ECDSA_WITH_CAMELLIA_256_CBC_SHA384", 256),
    ("TLS_ECDH_RSA_WITH_CAMELLIA_128_CBC_SHA256", 128),
    ("TLS_ECDH_RSA_WITH_CAMELLIA_256_CBC_SHA384", 256),
    ("OLD_TLS_ECDHE_RSA_WITH_CHACHA20_POLY1305_SHA256", 256),
    ("OLD_TLS_ECDHE_ECDSA_WITH_CHACHA20_POLY1305_SHA256", 256),
    ("OLD_TLS_DHE_RSA_WITH_CHACHA20_POLY1305_SHA256", 256),
    ("TLS_KRB5_WITH_DES_CBC_SHA", 56),
    ("TLS_KRB5_WITH_3DES_EDE_CBC_SHA", 168),
    ("TLS_KRB5_WITH_IDEA_CBC_SHA", 128),
    ("TLS_KRB5_WITH_DES_CBC_MD5", 56),
    ("TLS_KRB5_WITH_3DES_EDE_CBC_MD5", 168),
    ("TLS_KRB5_WITH_IDEA_CBC_MD5", 128),
    ("TLS_RSA_EXPORT1024_WITH_DES_CBC_SHA", 56),
    ("TLS_DHE_DSS_EXPORT1024_WITH_DES_CBC_SHA", 56),
    ("TLS_GOSTR341094_WITH_28147_CNT_IMIT", 256),
    ("TLS_GOSTR341001_WITH_28147_CNT_IMIT", 256),
    ("TLS_RSA_PSK_WITH_3DES_EDE_CBC_SHA", 168),
    ("TLS_AES_256_GCM_SHA384", 256),
    ("TLS_CHACHA20_POLY1305_SHA256", 256),
    ("TLS_AES_128_GCM_SHA256", 128),
    ("TLS_ECDHE_ECDSA_WITH_ARIA_256_GCM_SHA384", 256),
    ("TLS_ECDHE_RSA_WITH_ARIA_256_GCM_SHA384", 256),
    ("TLS_DHE_DSS_WITH_ARIA_256_GCM_SHA384", 256),
    ("TLS_DHE_RSA_WITH_ARIA_256_GCM_SHA384", 256),
    ("TLS_ECDHE_ECDSA_WITH_ARIA_128_GCM_SHA256", 128),
    ("TLS_ECDHE_RSA_WITH_ARIA_128_GCM_SHA256", 128),
    ("TLS_DHE_DSS_WITH_ARIA_128_GCM_SHA256", 128),
    ("TLS_DHE_RSA_WITH_ARIA_128_GCM_SHA256", 256),
    ("TLS_RSA_WITH_ARIA_256_GCM_SHA384", 256),
    ("TLS_RSA_WITH_ARIA_128_GCM_SHA256", 128),
    ("TLS_RSA_WITH_AES_256_CCM", 256),
    ("TLS_ECDHE_ECDSA_WITH_AES_128_CCM", 128),
    ("TLS_DHE_RSA_WITH_AES_128_CCM", 128),
    ("TLS_RSA_WITH_AES_128_CCM", 128),
    ("TLS_RSA_WITH_AES_256_CCM_8", 128),
    ("TLS_ECDHE_ECDSA_WITH_AES_256_CCM", 256),
    ("TLS_ECDHE_ECDSA_WITH_AES_256_CCM_8", 256),
    ("TLS_DHE_RSA_WITH_AES_128_CCM_8", 128),
    ("TLS_DHE_RSA_WITH_AES_256_CCM_8", 256),
    ("TLS_RSA_WITH_AES_128_CCM_8", 128),
    ("TLS_ECDHE_ECDSA_WITH_AES_128_CCM_8", 128),
    ("TLS_AES_128_CCM_8_SHA256", 128),
    ("TLS_AES_128_CCM_SHA256", 128),
    ("SSL_CK_RC4_128_WITH_MD5", 128),
    ("SSL_CK_RC4_128_EXPORT40_WITH_MD5", 40),
    ("SSL_CK_RC2_128_CBC_WITH_MD5", 128),
    ("SSL_CK_RC2_128_CBC_EXPORT40_WITH_MD5", 40),
    ("SSL_CK_IDEA_128_CBC_WITH_MD5", 128),
    ("SSL_CK_DES_64_CBC_WITH_MD5", 56),
    ("SSL_CK_DES_192_EDE3_CBC_WITH_MD5", 168),
    ("SSL_CK_RC4_64_WITH_MD5", 64)
  ]

/-- `_TLS_1_3_CIPHER_SUITES`: the TLS 1.3 suites of OpenSSL 1.1.1, under their RFC names. -/
def tls13CipherSuites : List String :=
  ["TLS_AES_128_GCM_SHA256", "TLS_AES_128_CCM_SHA256", "TLS_AES_256_GCM_SHA384",
    "TLS_AES_128_CCM_8_SHA256", "TLS_CHACHA20_POLY1305_SHA256"]

/-! ## 4. What the catalog proofs read off the tables -/

/-- A value `d[k]` returns is an entry of the dict. -/
theorem lookup_mem {β : Type} {l : List (String × β)} {k : String} {b : β}
    (h : l.lookup k = some b) : (k, b) ∈ l := by
  obtain ⟨l₁, l₂, rfl, -⟩ := List.lookup_eq_some_iff.mp h
  simp

/-- The key sizes `_RFC_NAME_TO_KEY_SIZE_MAPPING` holds. -/
def keySizes : List Nat := [0, 40, 56, 64, 128, 168, 256]

set_option maxRecDepth 10000 in
theorem rfcNameToKeySizeMapping_mem_keySizes :
    ∀ p ∈ rfcNameToKeySizeMapping, p.2 ∈ keySizes := by
  decide

theorem keySize_mem_keySizes {r : String} {k : Nat} (h : rfcNameToKeySizeMapping.lookup r = some k) :
    k ∈ keySizes :=
  rfcNameToKeySizeMapping_mem_keySizes _ (lookup_mem h)

/-- A lookup of a key that satisfies `P` meets only the entries whose key satisfies `P`. -/
theorem lookup_filter {β : Type} (P : String → Bool) (l : List (String × β)) {k : String}
    (hk : P k) : l.lookup k = (l.filter fun p => P p.1).lookup k := by
  induction l with
  | nil => rfl
  | cons p l ih =>
    obtain ⟨a, b⟩ := p
    by_cases hp : P a
    · cases h : k == a <;> simp [List.filter_cons, hp, List.lookup_cons, h, ih]
    · have : (k == a) = false := beq_false_of_ne fun h => hp (h ▸ hk)
      simp [List.filter_cons, hp, List.lookup_cons, this, ih]

/-- Every TLS 1.3 name starts `TLS_A` or `TLS_C`. -/
theorem tls13CipherSuites_startsWith :
    ∀ t ∈ tls13CipherSuites, "TLS_A".toList <+: t.toList ∨ "TLS_C".toList <+: t.toList := by
  decide

set_option maxRecDepth 10000 in
/-- No RFC name of the shared TLS table does. -/
theorem tlsOpensslToRfcNamesMapping_not_startsWith : ∀ p ∈ tlsOpensslToRfcNamesMapping,
    ¬ "TLS_A".toList <+: p.2.toList ∧ ¬ "TLS_C".toList <+: p.2.toList := by
  decide

/-- **No OpenSSL name of the shared TLS table is translated to a TLS 1.3 name.** The TLS 1.2 loop
    filters OpenSSL names only; this is what carries the filter over to RFC names. -/
theorem tlsOpensslToRfcNamesMapping_not_tls13 :
    ∀ p ∈ tlsOpensslToRfcNamesMapping, p.2 ∉ tls13CipherSuites := fun p hp ht =>
  (tls13CipherSuites_startsWith _ ht).elim (tlsOpensslToRfcNamesMapping_not_startsWith p hp).1
    (tlsOpensslToRfcNamesMapping_not_startsWith p hp).2

set_option maxRecDepth 10000 in
/-- The key sizes of the five TLS 1.3 suites, the hardcoded block's `K[t]`. Their lookups meet
    only the keys that start `TLS_A` or `TLS_C`: these five. -/
theorem tls13CipherSuites_lookup : tls13CipherSuites.map rfcNameToKeySizeMapping.lookup =
    [some 128, some 128, some 256, some 128, some 256] := by
  rw [List.map_congr_left fun t ht => lookup_filter
    (fun s => decide ("TLS_A".toList <+: s.toList ∨ "TLS_C".toList <+: s.toList)) _
    (decide_eq_true (tls13CipherSuites_startsWith t ht))]
  decide

/-- Every TLS 1.3 suite has a key size, so the hardcoded TLS 1.3 block never raises. -/
theorem tls13CipherSuites_keySize :
    ∀ t ∈ tls13CipherSuites, (rfcNameToKeySizeMapping.lookup t).isSome := by
  have h : ∀ x ∈ tls13CipherSuites.map rfcNameToKeySizeMapping.lookup, x.isSome := by
    rw [tls13CipherSuites_lookup]; decide
  simpa using h

/-- No RFC name of the SSL 2.0 table contains `"anon"`. -/
theorem sslv2OpensslToRfcNamesMapping_not_anon :
    ∀ p ∈ sslv2OpensslToRfcNamesMapping, isAnon p.2 = false := by
  decide

set_option maxRecDepth 10000 in
/-- No 256-bit suite of the key-size table is an SSL 2.0 suite. -/
theorem rfcNameToKeySizeMapping_256_not_sslv2 : ∀ p ∈ rfcNameToKeySizeMapping, p.2 = 256 →
    ∀ q ∈ sslv2OpensslToRfcNamesMapping, q.2 ≠ p.1 := by
  decide

/-- The key sizes of the SSL 2.0 suites: never 256, but 0 for `NULL-MD5`
    (`TLS_RSA_WITH_NULL_MD5`). -/
theorem sslv2OpensslToRfcNamesMapping_keySize :
    ∀ p ∈ sslv2OpensslToRfcNamesMapping, ∀ k, rfcNameToKeySizeMapping.lookup p.2 = some k →
      k ∈ [0, 40, 56, 64, 128, 168] := by
  intro p hp k hk
  have h256 : k ≠ 256 := fun h => rfcNameToKeySizeMapping_256_not_sslv2 _ (lookup_mem hk) h p hp rfl
  simpa [keySizes, h256] using keySize_mem_keySizes hk

/-! ## 5. RFC names given twice -/

/-- The pairs of OpenSSL names the TLS table translates to one RFC name: the `EDH-` and `DHE-`
    spellings of the two ephemeral Diffie-Hellman 3DES suites (lines 52 and 225, 55 and 224). -/
def rfcNameAliases : List (String × String) :=
  [("EDH-DSS-DES-CBC3-SHA", "DHE-DSS-DES-CBC3-SHA"), ("EDH-RSA-DES-CBC3-SHA", "DHE-RSA-DES-CBC3-SHA")]

/-- The four OpenSSL names of `rfcNameAliases`. -/
def aliasNames : List String := rfcNameAliases.flatMap fun a => [a.1, a.2]

theorem mem_aliasNames {a : String × String} (ha : a ∈ rfcNameAliases) :
    a.1 ∈ aliasNames ∧ a.2 ∈ aliasNames := by
  simp only [aliasNames, List.mem_flatMap]
  exact ⟨⟨a, ha, by simp⟩, ⟨a, ha, by simp⟩⟩

theorem mem_aliasNames_of_alias {n n' : String}
    (ha : (n, n') ∈ rfcNameAliases ∨ (n', n) ∈ rfcNameAliases) : n ∈ aliasNames :=
  ha.elim (fun ha => (mem_aliasNames ha).1) fun ha => (mem_aliasNames ha).2

/-- The entries of the TLS table for `aliasNames`, in the table's order. -/
def aliasEntries : List (String × String) :=
  [("EDH-DSS-DES-CBC3-SHA", "TLS_DHE_DSS_WITH_3DES_EDE_CBC_SHA"),
    ("EDH-RSA-DES-CBC3-SHA", "TLS_DHE_RSA_WITH_3DES_EDE_CBC_SHA"),
    ("DHE-RSA-DES-CBC3-SHA", "TLS_DHE_RSA_WITH_3DES_EDE_CBC_SHA"),
    ("DHE-DSS-DES-CBC3-SHA", "TLS_DHE_DSS_WITH_3DES_EDE_CBC_SHA")]

/-- A name's characters read as the digits of a number in base 128. Names with different numbers
    differ, which is all the uniqueness proofs use of it: comparing numbers costs the kernel far
    less than comparing strings. -/
def nameCode (s : String) : Nat := s.toList.foldl (fun h c => 128 * h + c.toNat) 0

/-- One pass over a list of numbers, with the bit mask of those seen so far: `true` when no number
    repeats and none is in `seen`. Linear, where `List.Nodup` compares every pair. -/
def allFresh : List Nat → Nat → Bool
  | [], _ => true
  | a :: l, seen => !seen.testBit a && allFresh l (seen ||| 1 <<< a)

theorem nodup_of_allFresh : ∀ {l : List Nat} {seen : Nat}, allFresh l seen = true →
    l.Nodup ∧ ∀ a ∈ l, seen.testBit a = false
  | [], _, _ => ⟨List.nodup_nil, nofun⟩
  | a :: l, seen, h => by
    rw [allFresh, Bool.and_eq_true, Bool.not_eq_true'] at h
    obtain ⟨hl, hfresh⟩ := nodup_of_allFresh h.2
    -- every later number is outside `seen`, and is not `a`, whose bit the pass has set
    have hb : ∀ b ∈ l, seen.testBit b = false ∧ b ≠ a := fun b hb => by
      have hb := hfresh b hb
      rw [Nat.testBit_or, Bool.or_eq_false_iff] at hb
      refine ⟨hb.1, fun hba => ?_⟩
      subst hba
      simp [Nat.shiftLeft_eq, Nat.testBit_two_pow_self] at hb
    exact ⟨List.nodup_cons.mpr ⟨fun ha => (hb a ha).2 rfl, hl⟩,
      List.forall_mem_cons.mpr ⟨h.1, fun b hb' => (hb b hb').1⟩⟩

/-- The bits of the two RFC names `rfcNameAliases` spells twice, the codes taken modulo the prime
    8191, which keeps the codes of the table's RFC names apart. -/
def aliasRfcNamesMask : Nat :=
  1 <<< (nameCode "TLS_DHE_DSS_WITH_3DES_EDE_CBC_SHA" % 8191) |||
    1 <<< (nameCode "TLS_DHE_RSA_WITH_3DES_EDE_CBC_SHA" % 8191)

set_option maxRecDepth 10000 in
/-- One pass over the TLS table splits it at `aliasNames`: the RFC names of the entries of other
    names are distinct and differ from the two 3DES names, and the entries of those names are
    `aliasEntries`. -/
theorem tlsOpensslToRfcNamesMapping_partition :
    allFresh ((tlsOpensslToRfcNamesMapping.partition fun p => p.1 ∈ aliasNames).2.map
        fun p => nameCode p.2 % 8191) aliasRfcNamesMask = true ∧
      (tlsOpensslToRfcNamesMapping.partition fun p => p.1 ∈ aliasNames).1 = aliasEntries := by
  decide

theorem filter_aliasNames :
    tlsOpensslToRfcNamesMapping.filter (fun p => decide (p.1 ∈ aliasNames)) = aliasEntries := by
  have h := tlsOpensslToRfcNamesMapping_partition.2
  rwa [List.partition_eq_filter_filter] at h

theorem mem_aliasEntries {p : String × String} (hp : p ∈ tlsOpensslToRfcNamesMapping)
    (ha : p.1 ∈ aliasNames) : p ∈ aliasEntries :=
  filter_aliasNames ▸ List.mem_filter.mpr ⟨hp, decide_eq_true ha⟩

theorem aliasEntries_testBit :
    ∀ q ∈ aliasEntries, aliasRfcNamesMask.testBit (nameCode q.2 % 8191) = true := by
  decide

/-- An entry whose OpenSSL name is no alias shares its RFC name with no other entry. -/
theorem eq_of_rfcName_eq {p q : String × String} (hp : p ∈ tlsOpensslToRfcNamesMapping)
    (hq : q ∈ tlsOpensslToRfcNamesMapping) (ha : p.1 ∉ aliasNames) (h : p.2 = q.2) : p = q := by
  have hpart := tlsOpensslToRfcNamesMapping_partition.1
  rw [List.partition_eq_filter_filter] at hpart
  obtain ⟨hnd, hfresh⟩ := nodup_of_allFresh hpart
  have hmem : ∀ {x : String × String}, x ∈ tlsOpensslToRfcNamesMapping → x.1 ∉ aliasNames →
      x ∈ tlsOpensslToRfcNamesMapping.filter (not ∘ fun p => decide (p.1 ∈ aliasNames)) :=
    fun hx hxa => List.mem_filter.mpr ⟨hx, by simpa using hxa⟩
  by_cases hqa : q.1 ∈ aliasNames
  · -- `q` carries one of the two 3DES names, whose bits are set in the mask
    have hbit := aliasEntries_testBit q (mem_aliasEntries hq hqa)
    rw [← h, hfresh _ (List.mem_map_of_mem _ (hmem hp ha))] at hbit
    exact absurd hbit Bool.false_ne_true
  · exact List.inj_on_of_nodup_map hnd (hmem hp ha) (hmem hq hqa) (by rw [h])

theorem aliasEntries_rfcName_eq : ∀ p ∈ aliasEntries, ∀ q ∈ aliasEntries, p.2 = q.2 →
    p.1 = q.1 ∨ (p.1, q.1) ∈ rfcNameAliases ∨ (q.1, p.1) ∈ rfcNameAliases := by
  decide

/-- **RFC names of the TLS table**: two entries with one RFC name have one OpenSSL name, or are
    the two spellings of a pair of `rfcNameAliases`. -/
theorem tlsOpensslToRfcNamesMapping_rfcName_eq {p q : String × String}
    (hp : p ∈ tlsOpensslToRfcNamesMapping) (hq : q ∈ tlsOpensslToRfcNamesMapping) (h : p.2 = q.2) :
    p.1 = q.1 ∨ (p.1, q.1) ∈ rfcNameAliases ∨ (q.1, p.1) ∈ rfcNameAliases := by
  by_cases hpa : p.1 ∈ aliasNames
  · by_cases hqa : q.1 ∈ aliasNames
    · exact aliasEntries_rfcName_eq p (mem_aliasEntries hp hpa) q (mem_aliasEntries hq hqa) h
    · exact .inl (congrArg Prod.fst (eq_of_rfcName_eq hq hp hqa h.symm)).symm
  · exact .inl (congrArg Prod.fst (eq_of_rfcName_eq hp hq hpa h))

theorem aliasEntries_lookup :
    ∀ a ∈ rfcNameAliases, aliasEntries.lookup a.1 = aliasEntries.lookup a.2 ∧ a.1 ≠ a.2 := by
  decide

/-- The two spellings of a pair of `rfcNameAliases` differ, and the TLS table gives them one RFC
    name. -/
theorem rfcNameAliases_lookup {a : String × String} (ha : a ∈ rfcNameAliases) :
    tlsOpensslToRfcNamesMapping.lookup a.1 = tlsOpensslToRfcNamesMapping.lookup a.2 ∧ a.1 ≠ a.2 := by
  -- a lookup of an alias name meets only the entries of `aliasEntries`
  have hk : ∀ k ∈ aliasNames, tlsOpensslToRfcNamesMapping.lookup k = aliasEntries.lookup k :=
    fun k hk => (lookup_filter (fun s => decide (s ∈ aliasNames)) _ (decide_eq_true hk)).trans
      (by rw [filter_aliasNames])
  rw [hk _ (mem_aliasNames ha).1, hk _ (mem_aliasNames ha).2]
  exact aliasEntries_lookup a ha

/-- The SSL 2.0 table gives each RFC name to one OpenSSL name, none of them an alias. -/
theorem sslv2OpensslToRfcNamesMapping_rfcName_nodup :
    (sslv2OpensslToRfcNamesMapping.map Prod.snd).Nodup ∧
      ∀ p ∈ sslv2OpensslToRfcNamesMapping, p.1 ∉ aliasNames := by
  decide

theorem tls13CipherSuites_not_alias : ∀ t ∈ tls13CipherSuites, t ∉ aliasNames := by
  decide

/-! ## 6. Anonymity, by the RFC name and by the OpenSSL name -/

/-- OpenSSL's own mark of an anonymous suite: its name starts `ADH-`, `AECDH-` or `EXP-ADH-`. -/
def OpensslAnonymous (n : String) : Prop :=
  "ADH-".toList <+: n.toList ∨ "AECDH-".toList <+: n.toList ∨ "EXP-ADH-".toList <+: n.toList

instance (n : String) : Decidable (OpensslAnonymous n) :=
  inferInstanceAs (Decidable (_ ∨ _ ∨ _))

set_option maxRecDepth 10000 in
theorem tlsOpensslToRfcNamesMapping_isAnon_of_opensslAnonymous :
    ∀ p ∈ tlsOpensslToRfcNamesMapping, OpensslAnonymous p.1 → isAnon p.2 = true := by
  decide

set_option maxRecDepth 10000 in
/-- The RFC names of the TLS table are upper case but for the `anon` of the anonymous suites. -/
theorem tlsOpensslToRfcNamesMapping_opensslAnonymous_of_lower :
    ∀ p ∈ tlsOpensslToRfcNamesMapping, 'a' ∈ p.2.toList → OpensslAnonymous p.1 := by
  decide

/-- **The two marks of anonymity agree on the TLS table**: an RFC name contains `"anon"` exactly
    when the OpenSSL name of its entry starts `ADH-`, `AECDH-` or `EXP-ADH-`. -/
theorem tlsOpensslToRfcNamesMapping_isAnon_iff {p : String × String}
    (hp : p ∈ tlsOpensslToRfcNamesMapping) : isAnon p.2 = true ↔ OpensslAnonymous p.1 := by
  refine ⟨fun h => tlsOpensslToRfcNamesMapping_opensslAnonymous_of_lower p hp ?_,
    tlsOpensslToRfcNamesMapping_isAnon_of_opensslAnonymous p hp⟩
  exact (of_decide_eq_true h).subset (by decide)

/-- No SSL 2.0 and no TLS 1.3 suite carries OpenSSL's mark of anonymity. -/
theorem not_opensslAnonymous_sslv2_tls13 :
    (∀ p ∈ sslv2OpensslToRfcNamesMapping, ¬ OpensslAnonymous p.1) ∧
      ∀ t ∈ tls13CipherSuites, ¬ OpensslAnonymous t := by
  decide

end Sslyze.CipherSuites
