import Sslyze.CipherSuites.Parse

/-!
# The build's requests to nassl

`Nassl` answers a version and a cipher string with one list, the same each time it is asked. The
build in fact asks nassl twelve times, one request after another: each pass of the outer loop
creates a legacy client for its version, then a legacy and a modern client for TLS 1.2, sets
`ALL:COMPLEMENTOFALL:-PSK:-SRP` and reads back `get_cipher_list()`. So the TLS 1.2 set is built
four times. This file models the build with its requests, against an engine that may answer each
request differently:

* `Engine` -- what `get_cipher_list()` returns for a request, after the requests made before it;
* `parseIterationLogged`, `parseAllCipherSuitesLogged` -- the outer loop, its requests logged in the
  source's order; a `KeyError` stops the run right after the request whose answer raised;
* `passNassl`, `passView` -- the engine as one pass sees it, a `Nassl`, so that a pass is
  `parseIteration` against it (`parseIterationLogged_some`);
* `parseAllCipherSuitesLogged_requests` -- the requests of every run: the twelve when it returns, and
  up to the answer that raised when it does not;
* `parseAllCipherSuitesLogged_dict` -- the catalog against any engine: every pass must go through,
  each legacy version keeps what its own pass built, TLS 1.2 what the last pass built;
* `parseAllCipherSuitesLogged_ofNassl` -- against an engine that answers each request the same
  whatever came before, the build returns what `parseAllCipherSuites` returns.
-/

namespace Sslyze.CipherSuites

/-! ## 1. Requests -/

/-- The two nassl clients the build creates: `LegacySslClient` (lines 571-575) and `SslClient`
    (lines 604-606). -/
inductive Client
  | legacy
  | modern
  deriving DecidableEq, Repr

/-- One request to nassl: create a `client` for `tlsVersion`, `set_cipher_list(cipherString)`, read
    back `get_cipher_list()`. -/
structure Request where
  client : Client
  tlsVersion : TlsVersionEnum
  cipherString : String
  deriving DecidableEq, Repr

/-- nassl as the build meets it: the list `get_cipher_list()` returns for a request, after the
    requests made before it. -/
abbrev Engine := List Request → Request → List String

/-- `_parse_all_cipher_suites_with_legacy_openssl(tls_version)`. -/
def legacyRequest (tlsVersion : TlsVersionEnum) : Request := ⟨.legacy, tlsVersion, cipherList⟩

/-- The modern client of lines 604-606, for TLS 1.2. -/
def modernRequest : Request := ⟨.modern, .TLS_1_2, cipherList⟩

/-- The requests of a pass over `v`: its version, then TLS 1.2 by both clients. -/
def passRequests (v : TlsVersionEnum) : List Request :=
  [legacyRequest v, legacyRequest .TLS_1_2, modernRequest]

/-! ## 2. The build, request by request -/

/-- Where a run of the build is: the requests made so far, and the dict; `none` once a `KeyError`
    has left the function. -/
structure Run where
  requests : List Request
  dict : Option Catalog

/-- One pass of the outer loop for `tls_version = v` (lines 587-635): the legacy request and the
    loop over its names; then the two TLS 1.2 requests and the loop over their union; then the
    TLS 1.3 block, which asks nothing. A `KeyError` ends the run after the last request made. -/
def parseIterationLogged (e : Engine) : Run → TlsVersionEnum → Run
  | ⟨log, none⟩, _ => ⟨log, none⟩
  | ⟨log, some d⟩, v =>
    match forEach (legacyLoopBody v) (e log (legacyRequest v)).toFinset with
    | none => ⟨log ++ [legacyRequest v], none⟩
    | some s =>
      let fromLegacy := (e (log ++ [legacyRequest v]) (legacyRequest .TLS_1_2)).toFinset
      let fromModern :=
        (e (log ++ [legacyRequest v, legacyRequest .TLS_1_2]) modernRequest).toFinset
      match forEach tls12LoopBody (fromLegacy ∪ fromModern), tls13Entry with
      | some s₁₂, some s₁₃ =>
        ⟨log ++ passRequests v, some (Function.update (Function.update (Function.update d v
          (some s)) .TLS_1_2 (some s₁₂)) .TLS_1_3 (some s₁₃))⟩
      | _, _ => ⟨log ++ passRequests v, none⟩

/-- `_parse_all_cipher_suites` with its requests to nassl, from no request and the empty dict. -/
def parseAllCipherSuitesLogged (e : Engine) : Run :=
  legacyVersions.foldl (parseIterationLogged e) ⟨[], some fun _ => none⟩

/-! ## 3. One pass is `parseIteration` against the engine it sees -/

/-- The engine as the pass over `v` sees it, after the requests `log`: the legacy request for `v`
    is answered after `log`, the TLS 1.2 requests after those of the pass before them. -/
def passNassl (e : Engine) (log : List Request) (v : TlsVersionEnum) : Nassl :=
  ⟨fun w s => e (if w = v then log else log ++ [legacyRequest v]) ⟨.legacy, w, s⟩,
    fun w s => e (log ++ [legacyRequest v, legacyRequest .TLS_1_2]) ⟨.modern, w, s⟩⟩

section Pass

variable {e : Engine} {log : List Request} {d : Catalog} {v : TlsVersionEnum}

theorem legacyEntry_passNassl :
    legacyEntry (passNassl e log v) v =
      forEach (legacyLoopBody v) (e log (legacyRequest v)).toFinset := by
  simp [legacyEntry, parseAllCipherSuitesWithLegacyOpenssl, passNassl, legacyRequest]

theorem tls12Entry_passNassl (hv : v ≠ .TLS_1_2) :
    tls12Entry (passNassl e log v) = forEach tls12LoopBody
      ((e (log ++ [legacyRequest v]) (legacyRequest .TLS_1_2)).toFinset ∪
        (e (log ++ [legacyRequest v, legacyRequest .TLS_1_2]) modernRequest).toFinset) := by
  simp [tls12Entry, parseAllCipherSuitesWithLegacyOpenssl, cipherSuitesFromModernOpenssl,
    passNassl, legacyRequest, modernRequest, Ne.symm hv]

/-- **Everything one pass does**: it raises after its first request when its legacy loop raises;
    otherwise it makes its three requests and stores what `parseIteration` stores against the
    engine it sees. -/
theorem parseIterationLogged_some (hv : v ≠ .TLS_1_2) :
    parseIterationLogged e ⟨log, some d⟩ v =
      if legacyEntry (passNassl e log v) v = none then ⟨log ++ [legacyRequest v], none⟩
      else ⟨log ++ passRequests v, parseIteration (passNassl e log v) d v⟩ := by
  simp only [parseIterationLogged, parseIteration, legacyEntry_passNassl, tls12Entry_passNassl hv]
  rcases forEach (legacyLoopBody v) (e log (legacyRequest v)).toFinset with _ | s
  · rfl
  · rcases h₁₂ : forEach tls12LoopBody _ with _ | s₁₂ <;>
      rcases h₁₃ : tls13Entry with _ | s₁₃ <;> simp [h₁₂, h₁₃]

theorem passGoes_of_parseIteration {o : Nassl} {d' : Catalog} (h : parseIteration o d v = some d') :
    legacyEntry o v ≠ none ∧ tls12Entry o ≠ none := by
  obtain ⟨a, b, -, ha, hb, -⟩ := parseIteration_eq_some_iff.mp h
  exact ⟨by simp [ha], by simp [hb]⟩

theorem tls12Entry_eq_none_of_parseIteration {o : Nassl} (hl : legacyEntry o v ≠ none)
    (h : parseIteration o d v = none) : tls12Entry o = none := by
  rcases parseIteration_eq_none_iff.mp h with h | h | h
  · exact absurd h hl
  · exact h
  · exact absurd h tls13Entry_ne_none

end Pass

/-! ## 4. Every run -/

/-- The requests the passes before `v` make when none of them raises. -/
def requestsBefore (v : TlsVersionEnum) : List Request :=
  (legacyVersions.takeWhile (· ≠ v)).flatMap passRequests

/-- The engine as the pass over `v` sees it in a run that reaches that pass. -/
def passView (e : Engine) (v : TlsVersionEnum) : Nassl := passNassl e (requestsBefore v) v

/-- The pass over `v` goes through: neither its legacy loop nor its TLS 1.2 loop raises. -/
def PassGoes (e : Engine) (v : TlsVersionEnum) : Prop :=
  legacyEntry (passView e v) v ≠ none ∧ tls12Entry (passView e v) ≠ none

/-- The catalog of a build whose pass over `v` sees `os v`: each legacy version what its own pass
    built, TLS 1.2 what the last pass (TLS 1.1) built, TLS 1.3 the hardcoded set. -/
def passesEntry (os : TlsVersionEnum → Nassl) : TlsVersionEnum → Option (Finset CipherSuite)
  | .TLS_1_2 => tls12Entry (os .TLS_1_1)
  | .TLS_1_3 => tls13Entry
  | v => legacyEntry (os v) v

/-- How a run ends: all four passes go through, after the twelve requests, with the catalog they
    built; or the first pass that raises stops the run right after the request whose answer it
    could not translate, its legacy request or its modern one. -/
def RunEnds (e : Engine) (r : Run) : Prop :=
  ((∀ v ∈ legacyVersions, PassGoes e v) ∧
      r = ⟨legacyVersions.flatMap passRequests, some (passesEntry (passView e))⟩) ∨
    ∃ v ∈ legacyVersions, (∀ u ∈ legacyVersions.takeWhile (· ≠ v), PassGoes e u) ∧
      (legacyEntry (passView e v) v = none ∧ r = ⟨requestsBefore v ++ [legacyRequest v], none⟩ ∨
        legacyEntry (passView e v) v ≠ none ∧ tls12Entry (passView e v) = none ∧
          r = ⟨requestsBefore v ++ passRequests v, none⟩)

/-- The dict after the passes over `pre` went through: each of their versions holds what its own
    pass built, TLS 1.2 and TLS 1.3 what the last of them built, every other version nothing. -/
def PassesStored (e : Engine) (pre : List TlsVersionEnum) (d : Catalog) : Prop :=
  (∀ w, w ≠ .TLS_1_2 → w ≠ .TLS_1_3 → d w = if w ∈ pre then legacyEntry (passView e w) w else none) ∧
    ∀ u, pre.getLast? = some u → d .TLS_1_2 = tls12Entry (passView e u) ∧ d .TLS_1_3 = tls13Entry

section Runs

variable {e : Engine} {log : List Request} {d : Catalog} {v : TlsVersionEnum}

theorem foldl_parseIterationLogged_none (vs : List TlsVersionEnum) :
    vs.foldl (parseIterationLogged e) ⟨log, none⟩ = ⟨log, none⟩ := by
  induction vs with
  | nil => rfl
  | cons v vs ih => exact ih

theorem foldl_parseIterationLogged_cons (hv : v ≠ .TLS_1_2) (vs : List TlsVersionEnum) :
    (v :: vs).foldl (parseIterationLogged e) ⟨log, some d⟩ =
      if legacyEntry (passNassl e log v) v = none then ⟨log ++ [legacyRequest v], none⟩
      else match parseIteration (passNassl e log v) d v with
        | none => ⟨log ++ passRequests v, none⟩
        | some d₁ => vs.foldl (parseIterationLogged e) ⟨log ++ passRequests v, some d₁⟩ := by
  rw [List.foldl_cons, parseIterationLogged_some hv]
  split_ifs
  · exact foldl_parseIterationLogged_none vs
  · rcases parseIteration (passNassl e log v) d v with _ | d₁
    · exact foldl_parseIterationLogged_none vs
    · rfl

theorem passesStored_nil : PassesStored e [] fun _ => none :=
  ⟨fun _ _ _ => rfl, fun _ h => nomatch h⟩

/-- **The step**: a pass over `v` that goes through keeps `PassesStored`, with `v` added. -/
theorem passesStored_snoc {pre : List TlsVersionEnum} {d₁ : Catalog} (h₁₂ : v ≠ .TLS_1_2)
    (h₁₃ : v ≠ .TLS_1_3) (hs : PassesStored e pre d)
    (hp : parseIteration (passView e v) d v = some d₁) : PassesStored e (pre ++ [v]) d₁ := by
  have hinv := parseIteration_runInv hp
  refine ⟨fun w w₁₂ w₁₃ => ?_, fun u hu => ?_⟩
  · rw [hinv w]
    by_cases hw : w = v
    · subst hw
      simp [catalogEntry_of_ne w₁₂ w₁₃]
    · simp [hw, w₁₂, w₁₃, hs.1 w w₁₂ w₁₃]
  · obtain rfl : v = u := by simpa using hu
    simp [hinv .TLS_1_2, hinv .TLS_1_3, catalogEntry]

theorem passesEntry_of_passesStored (hs : PassesStored e legacyVersions d) :
    d = passesEntry (passView e) := by
  funext w
  rcases mem_legacyVersions_or (w := w) with hw | rfl | rfl
  · obtain ⟨h₁₂, h₁₃⟩ := ne_of_mem_legacyVersions hw
    rw [hs.1 w h₁₂ h₁₃, if_pos hw]
    cases w <;> simp_all [passesEntry]
  · exact (hs.2 .TLS_1_1 rfl).1
  · exact (hs.2 .TLS_1_1 rfl).2

/-- When every pass goes through, every version of the catalog is set. -/
theorem passesEntry_ne_none (hgo : ∀ v ∈ legacyVersions, PassGoes e v) (w : TlsVersionEnum) :
    passesEntry (passView e) w ≠ none := by
  cases w
  case TLS_1_2 => exact (hgo .TLS_1_1 (by decide)).2
  case TLS_1_3 => exact tls13Entry_ne_none
  all_goals exact (hgo _ (by decide)).1

/-- The passes before `v` are those the loop ran over before it. -/
theorem takeWhile_legacyVersions {pre vs : List TlsVersionEnum}
    (h : pre ++ v :: vs = legacyVersions) : legacyVersions.takeWhile (· ≠ v) = pre := by
  have hnd : (pre ++ v :: vs).Nodup := h ▸ (by decide : legacyVersions.Nodup)
  have hv : v ∉ pre := fun hv => List.disjoint_of_nodup_append hnd hv (List.mem_cons_self v vs)
  rw [← h, List.takeWhile_append_of_pos fun a ha => by simpa using fun hav : a = v => hv (hav ▸ ha)]
  simp

/-- **The run lemma**: after passes over `pre` that went through, the rest of the loop ends as
    `RunEnds` says. -/
theorem foldl_parseIterationLogged_ends (vs : List TlsVersionEnum) :
    ∀ (pre : List TlsVersionEnum) (d : Catalog), pre ++ vs = legacyVersions →
      (∀ u ∈ pre, PassGoes e u) → PassesStored e pre d →
      RunEnds e (vs.foldl (parseIterationLogged e) ⟨pre.flatMap passRequests, some d⟩) := by
  induction vs with
  | nil =>
    intro pre d h hgo hs
    rw [List.append_nil] at h
    subst h
    exact .inl ⟨hgo, by rw [← passesEntry_of_passesStored hs]; rfl⟩
  | cons v vs ih =>
    intro pre d h hgo hs
    have hmem : v ∈ legacyVersions := h ▸ List.mem_append_right pre (List.mem_cons_self v vs)
    obtain ⟨h₁₂, h₁₃⟩ := ne_of_mem_legacyVersions hmem
    have hpre := takeWhile_legacyVersions h
    have hlog : requestsBefore v = pre.flatMap passRequests := by rw [requestsBefore, hpre]
    have hview : passNassl e (pre.flatMap passRequests) v = passView e v := by
      rw [passView, hlog]
    have hgo' : ∀ u ∈ legacyVersions.takeWhile (· ≠ v), PassGoes e u := hpre ▸ hgo
    rw [foldl_parseIterationLogged_cons h₁₂, hview]
    split_ifs with hl
    · exact .inr ⟨v, hmem, hgo', .inl ⟨hl, by rw [hlog]⟩⟩
    rcases hp : parseIteration (passView e v) d v with _ | d₁
    · exact .inr ⟨v, hmem, hgo', .inr ⟨hl, tls12Entry_eq_none_of_parseIteration hl hp, by rw [hlog]⟩⟩
    · have hgv : PassGoes e v := passGoes_of_parseIteration hp
      have := ih (pre ++ [v]) d₁ (by simpa using h)
        (List.forall_mem_append.mpr ⟨hgo, List.forall_mem_singleton.mpr hgv⟩)
        (passesStored_snoc h₁₂ h₁₃ hs hp)
      simpa [List.flatMap_append] using this

theorem parseAllCipherSuitesLogged_ends (e : Engine) : RunEnds e (parseAllCipherSuitesLogged e) :=
  foldl_parseIterationLogged_ends legacyVersions [] _ rfl (fun _ => nofun) passesStored_nil

end Runs

/-! ## 5. What every run asks and returns -/

/-- **The nested loop against a changing engine.** The build raises exactly when some pass does not
    go through, each against the answers it gets; otherwise its catalog holds for each legacy
    version what that version's pass built, and for TLS 1.2 what the last pass built. The TLS 1.2
    sets of the first three passes are thrown away, but each of them can make the build raise. -/
theorem parseAllCipherSuitesLogged_dict (e : Engine) :
    ((parseAllCipherSuitesLogged e).dict = none ↔ ∃ v ∈ legacyVersions, ¬ PassGoes e v) ∧
      ∀ C, (parseAllCipherSuitesLogged e).dict = some C → C = passesEntry (passView e) := by
  rcases parseAllCipherSuitesLogged_ends e with ⟨hgo, h⟩ | ⟨v, hv, -, ⟨hl, h⟩ | ⟨-, h₁₂, h⟩⟩ <;>
    rw [h] <;> dsimp only
  · exact ⟨iff_of_false nofun fun ⟨v, hv, hn⟩ => hn (hgo v hv), fun _ h => (Option.some.inj h).symm⟩
  · exact ⟨iff_of_true rfl ⟨v, hv, fun hg => hg.1 hl⟩, nofun⟩
  · exact ⟨iff_of_true rfl ⟨v, hv, fun hg => hg.2 h₁₂⟩, nofun⟩

/-- nassl answering every request by `o`, whatever was asked before. -/
def Engine.ofNassl (o : Nassl) : Engine := fun _ q =>
  match q.client with
  | .legacy => o.legacy q.tlsVersion q.cipherString
  | .modern => o.modern q.tlsVersion q.cipherString

/-- **Refinement**: against an engine that answers each request the same whatever was asked
    before, the build with its requests returns what `parseAllCipherSuites` returns, so every fact
    proved of `parseAllCipherSuites` holds of it. -/
theorem parseAllCipherSuitesLogged_ofNassl (o : Nassl) :
    (parseAllCipherSuitesLogged (Engine.ofNassl o)).dict = parseAllCipherSuites o := by
  have hentry : passesEntry (passView (Engine.ofNassl o)) = catalogEntry o := by
    funext w
    cases w <;> rfl
  rcases parseAllCipherSuitesLogged_ends (Engine.ofNassl o) with
    ⟨hgo, h⟩ | ⟨v, hv, -, ⟨hl, h⟩ | ⟨-, h₁₂, h⟩⟩ <;> rw [h] <;> dsimp only
  · have hall := passesEntry_ne_none hgo
    rw [hentry] at hall ⊢
    exact eq_parseAllCipherSuites ⟨nofun, fun ⟨w, hw⟩ => absurd hw (hall w)⟩
      fun _ h _ => by cases h; rfl
  · exact (parseAllCipherSuites_eq_none_iff.mpr (.inl ⟨v, hv, hl⟩)).symm
  · exact (parseAllCipherSuites_eq_none_iff.mpr (.inr (.inl h₁₂))).symm

end Sslyze.CipherSuites
