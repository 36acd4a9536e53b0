import ContinuityOS.Library.Encoding
import ContinuityOS.Library.Sha256
import ContinuityOS.Library.Text
import ContinuityOS.Security.SlidingWindow

/-! # The gate in front of the endpoints

An endpoint counts its callers in the one limiter of the service, and all but a few first ask for
the key of the service. A caller is counted under the key that it sends, or else under its host.
With a key in the settings the endpoints that ask for it have one caller, so the limit holds for
all of them together.
-/
namespace ContinuityOS.Security
open Library FixedWindowLimiter

inductive Environment where
  | development | test | production
deriving DecidableEq

/-- The settings the gate reads, with what their validators demand. -/
structure Settings where
  environment : Environment
  apiKey : Option String
  rateLimitPerMinute : ℤ
  key_length : ∀ key ∈ apiKey, 32 ≤ key.length
  production_key : environment = .production → apiKey ≠ none
  limit_pos : 1 ≤ rateLimitPerMinute
  limit_le : rateLimitPerMinute ≤ 10000

/-- A request to an endpoint, which may ask for the key, with the clock of its check. -/
structure GateRequest where
  asksKey : Bool
  apiKeyHeader : Option String
  clientHost : Option String
  now : ℚ

inductive GateAnswer where
  | handled
  | httpError (status : ℕ) (detail : String)
  | rateLimitExceeded (retryAfter : ℤ)
  | uncaught
deriving DecidableEq

def providedKey (r : GateRequest) : String := r.apiKeyHeader.getD ""

def isAscii (text : String) : Bool := text.toList.all fun c => c.toNat < 128

/-- Texts outside ASCII cannot be compared. -/
def compareDigest (a b : String) : Option Bool :=
  if isAscii a && isAscii b then some (decide (a = b)) else none

def keyUnavailable : GateAnswer := .httpError 503 "API key unavailable"

def keyRequired : GateAnswer := .httpError 401 "valid X-Continuity-API-Key required"

def requireApiKey (settings : Settings) (r : GateRequest) : Except GateAnswer Unit :=
  match settings.apiKey with
  | none => if settings.environment = .production then .error keyUnavailable else .ok ()
  | some configured =>
    if providedKey r = "" then .error keyRequired
    else match compareDigest (providedKey r) configured with
      | none => .error .uncaught
      | some true => .ok ()
      | some false => .error keyRequired

def identity (r : GateRequest) : String :=
  if providedKey r ≠ "" then providedKey r else r.clientHost.getD "unknown"

def hexOf (text : String) : String :=
  String.ofList (hexEncode (sha256 (encodeUtf8 text.toList)))

def rateKey (r : GateRequest) : String := hexOf (identity r)

def windowSeconds : ℤ := 60

def Settings.checkOf (settings : Settings) (r : GateRequest) : Check :=
  ⟨rateKey r, settings.rateLimitPerMinute, windowSeconds, r.now⟩

def gateAnswerOf : Except LimiterError (Option ℤ) → GateAnswer
  | .ok none => .handled
  | .ok (some seconds) => .rateLimitExceeded seconds
  | .error _ => .uncaught

def enforceRateLimit (settings : Settings) (limiter : FixedWindowLimiter) (r : GateRequest) :
    GateAnswer × FixedWindowLimiter :=
  let result := limiter.check (settings.checkOf r)
  (gateAnswerOf result.1, result.2)

/-- The dependency on the key, at the endpoints that have it. -/
def keyCheck (settings : Settings) (r : GateRequest) : Except GateAnswer Unit :=
  if r.asksKey then requireApiKey settings r else .ok ()

/-- The dependencies of an endpoint in their order. -/
def passGate (settings : Settings) (limiter : FixedWindowLimiter) (r : GateRequest) :
    GateAnswer × FixedWindowLimiter :=
  match keyCheck settings r with
  | .error answer => (answer, limiter)
  | .ok () => enforceRateLimit settings limiter r

def maxKeys : ℕ := 10000

def serve (settings : Settings) (limiter : FixedWindowLimiter) (requests : List GateRequest) :
    FixedWindowLimiter :=
  requests.foldl (fun limiter r => (passGate settings limiter r).2) limiter

/-- What a request is answered after the requests before it. -/
def answerAfter (settings : Settings) (before : List GateRequest) (r : GateRequest) :
    GateAnswer :=
  (passGate settings (serve settings (empty maxKeys) before) r).1

/-- When the requests of a kind were handled. -/
def handledTimes (settings : Settings) (kind : GateRequest → Bool) :
    FixedWindowLimiter → List GateRequest → List ℚ
  | _, [] => []
  | limiter, r :: requests =>
    (if kind r = true ∧ (passGate settings limiter r).1 = .handled then [r.now] else []) ++
      handledTimes settings kind (passGate settings limiter r).2 requests

/-- The requests that get past the key. -/
def Settings.passes (settings : Settings) (r : GateRequest) : Bool := (keyCheck settings r).isOk

def Settings.checksOf (settings : Settings) (requests : List GateRequest) : List Check :=
  (requests.filter settings.passes).map settings.checkOf

section Key
variable {settings : Settings} {r : GateRequest} {configured : String}

/-- A key in the settings is asked for as it is. -/
theorem requireApiKey_eq_ok_iff (hkey : settings.apiKey = some configured) :
    requireApiKey settings r = .ok () ↔ providedKey r = configured ∧ isAscii configured = true := by
  have hlength : 32 ≤ configured.length := settings.key_length configured hkey
  rw [requireApiKey, hkey]
  by_cases hempty : providedKey r = ""
  · have hne : configured ≠ "" := by
      rintro rfl
      exact absurd hlength (by decide)
    simp only [hempty, if_true]
    exact iff_of_false (by simp) fun h => hne h.1.symm
  · simp only [hempty, if_false]
    rw [compareDigest]
    by_cases heq : providedKey r = configured
    · rw [heq]
      cases hascii : isAscii configured <;> simp
    · cases hascii : isAscii (providedKey r) && isAscii configured <;> simp [heq]

/-- A request that fails the key is told so, unless the keys cannot be compared. -/
theorem requireApiKey_error (hkey : settings.apiKey = some configured) {answer : GateAnswer}
    (h : requireApiKey settings r = .error answer) : answer = keyRequired ∨ answer = .uncaught := by
  rw [requireApiKey, hkey] at h
  simp only at h
  split_ifs at h with hempty
  · exact Or.inl (Except.error.inj h).symm
  · cases hcompare : compareDigest (providedKey r) configured with
    | none =>
      rw [hcompare] at h
      exact Or.inr (Except.error.inj h).symm
    | some same =>
      rw [hcompare] at h
      cases same with
      | false => exact Or.inl (Except.error.inj h).symm
      | true => cases h

theorem passes_of_asksKey (hasks : r.asksKey = true) :
    settings.passes r = true ↔ requireApiKey settings r = .ok () := by
  rw [Settings.passes, keyCheck, if_pos hasks]
  cases requireApiKey settings r with
  | error answer => exact iff_of_false Bool.false_ne_true (by simp)
  | ok _ => exact iff_of_true rfl rfl

theorem passes_of_open (hopen : r.asksKey = false) : settings.passes r = true := by
  rw [Settings.passes, keyCheck, hopen]
  rfl

theorem passGate_of_passes (limiter : FixedWindowLimiter) (h : settings.passes r = true) :
    passGate settings limiter r = enforceRateLimit settings limiter r := by
  rw [Settings.passes] at h
  rw [passGate]
  cases hcheck : keyCheck settings r with
  | error answer =>
    rw [hcheck] at h
    cases h
  | ok _ => rfl

/-- A request that fails the key leaves no trace in the limiter. -/
theorem passGate_of_not_passes (limiter : FixedWindowLimiter) (h : settings.passes r = false) :
    ∃ answer, keyCheck settings r = .error answer ∧
      passGate settings limiter r = (answer, limiter) := by
  rw [Settings.passes] at h
  rw [passGate]
  cases hcheck : keyCheck settings r with
  | error answer => exact ⟨answer, rfl, rfl⟩
  | ok _ =>
    rw [hcheck] at h
    cases h

theorem keyRequired_ne_handled : keyRequired ≠ .handled := by decide
theorem keyUnavailable_ne_handled : keyUnavailable ≠ .handled := by decide

theorem keyCheck_ne_handled (r : GateRequest) :
    keyCheck settings r ≠ .error .handled := by
  intro h
  rw [keyCheck] at h
  split_ifs at h with hasks
  cases hkey : settings.apiKey with
  | none =>
    rw [requireApiKey, hkey] at h
    simp only at h
    split_ifs at h with hprod
    exact keyUnavailable_ne_handled (Except.error.inj h)
  | some configured =>
    rcases requireApiKey_error hkey h with hanswer | hanswer
    · exact keyRequired_ne_handled hanswer.symm
    · cases hanswer

end Key

section Runs
variable {settings : Settings} {limiter : FixedWindowLimiter}
  {requests before after : List GateRequest} {r : GateRequest}

theorem checksOf_concat (requests : List GateRequest) (r : GateRequest) :
    settings.checksOf (requests ++ [r]) = settings.checksOf requests ++
      if settings.passes r = true then [settings.checkOf r] else [] := by
  rw [Settings.checksOf, List.filter_append, List.map_append]
  by_cases h : settings.passes r = true <;> simp [Settings.checksOf, h]

/-- The limiter has seen the requests that got past the key, and nothing else. -/
theorem serve_eq (limiter : FixedWindowLimiter) (requests : List GateRequest) :
    serve settings limiter requests = limiter.run (settings.checksOf requests) := by
  induction requests using List.reverseRecOn with
  | nil => rfl
  | append_singleton requests r ih =>
    have hserve : serve settings limiter (requests ++ [r]) =
        (passGate settings (serve settings limiter requests) r).2 := by
      rw [serve, List.foldl_append]
      rfl
    rw [hserve, checksOf_concat]
    by_cases h : settings.passes r = true
    · rw [passGate_of_passes _ h, if_pos h, run_concat, ih]
      rfl
    · obtain ⟨answer, -, hgate⟩ := passGate_of_not_passes (serve settings limiter requests)
        (Bool.eq_false_iff.mpr h)
      rw [hgate, if_neg h, List.append_nil, ih]

theorem answerAfter_of_passes (h : settings.passes r = true) :
    answerAfter settings before r =
      gateAnswerOf (outcome maxKeys (settings.checksOf before) (settings.checkOf r)) := by
  rw [answerAfter, passGate_of_passes _ h, serve_eq]
  rfl

/-- The requests that failed the key change no later answer. -/
theorem answerAfter_filter (before : List GateRequest) (r : GateRequest) :
    answerAfter settings before r = answerAfter settings (before.filter settings.passes) r := by
  have hchecks : settings.checksOf (before.filter settings.passes) = settings.checksOf before := by
    rw [Settings.checksOf, List.filter_filter]
    simp only [Bool.and_self]
    rfl
  rw [answerAfter, answerAfter, serve_eq, serve_eq, hchecks]

theorem handledTimes_append (kind : GateRequest → Bool) (limiter : FixedWindowLimiter)
    (before after : List GateRequest) :
    handledTimes settings kind limiter (before ++ after) =
      handledTimes settings kind limiter before ++
        handledTimes settings kind (serve settings limiter before) after := by
  induction before generalizing limiter with
  | nil => rfl
  | cons r before ih =>
    rw [List.cons_append, handledTimes, ih, handledTimes, List.append_assoc]
    rfl

/-- What is handled under an identity is what the limiter accepts under it. -/
theorem handledTimes_eq (k : String) (requests : List GateRequest) :
    handledTimes settings (fun r => decide (rateKey r = k)) (empty maxKeys) requests =
      acceptedTimes k (empty maxKeys) (settings.checksOf requests) := by
  induction requests using List.reverseRecOn with
  | nil => rfl
  | append_singleton requests r ih =>
    have hlast : handledTimes settings (fun r => decide (rateKey r = k))
        (serve settings (empty maxKeys) requests) [r] =
          if rateKey r = k ∧ answerAfter settings requests r = .handled then [r.now] else [] := by
      simp only [handledTimes, List.append_nil, decide_eq_true_eq]
      rfl
    rw [handledTimes_append, hlast, ih, checksOf_concat]
    by_cases h : settings.passes r = true
    · have hcheck : acceptedTimes k ((empty maxKeys).run (settings.checksOf requests))
          [settings.checkOf r] = if rateKey r = k ∧
            isAccepted (outcome maxKeys (settings.checksOf requests) (settings.checkOf r)) = true
            then [r.now] else [] := List.append_nil _
      have haccepted : answerAfter settings requests r = .handled ↔
          isAccepted (outcome maxKeys (settings.checksOf requests) (settings.checkOf r)) =
            true := by
        rw [answerAfter_of_passes h]
        generalize outcome maxKeys (settings.checksOf requests) (settings.checkOf r) = result
        rcases result with e | wait
        · exact iff_of_false (by simp [gateAnswerOf]) (by simp [isAccepted])
        · cases wait with
          | none => exact iff_of_true rfl rfl
          | some seconds => exact iff_of_false (by simp [gateAnswerOf]) (by simp [isAccepted])
      rw [if_pos h, acceptedTimes_append, hcheck]
      simp only [haccepted]
    · obtain ⟨answer, herror, hgate⟩ := passGate_of_not_passes
        (serve settings (empty maxKeys) requests) (Bool.eq_false_iff.mpr h)
      have hanswer : answerAfter settings requests r ≠ .handled := by
        rw [answerAfter, hgate]
        rintro rfl
        exact keyCheck_ne_handled r herror
      rw [if_neg h, List.append_nil, if_neg fun hboth => hanswer hboth.2, List.append_nil]

theorem handledTimes_sublist {kind other : GateRequest → Bool}
    (h : ∀ r ∈ requests, kind r = true → settings.passes r = true → other r = true) :
    (handledTimes settings kind limiter requests).Sublist
      (handledTimes settings other limiter requests) := by
  induction requests generalizing limiter with
  | nil => exact List.Sublist.refl []
  | cons r requests ih =>
    rw [List.forall_mem_cons] at h
    rw [handledTimes, handledTimes]
    refine List.Sublist.append ?_ (ih h.2)
    by_cases hkind : kind r = true ∧ (passGate settings limiter r).1 = .handled
    · have hpasses : settings.passes r = true := by
        by_contra hfails
        obtain ⟨answer, herror, hgate⟩ := passGate_of_not_passes limiter
          (Bool.eq_false_iff.mpr hfails)
        rw [hgate] at hkind
        have hanswer : answer = .handled := hkind.2
        exact keyCheck_ne_handled r (hanswer ▸ herror)
      rw [if_pos hkind, if_pos ⟨h.1 hkind.1 hpasses, hkind.2⟩]
    · rw [if_neg hkind]
      exact List.nil_sublist _

/-- On a clock that does not go back, with room for every identity, the limiter does what it is
for. -/
theorem checksOf_steady (hclock : requests.Pairwise fun a b => a.now ≤ b.now)
    (hroom : ((requests.filter settings.passes).map rateKey).toFinset.card ≤ maxKeys) :
    SteadyChecks settings.rateLimitPerMinute windowSeconds maxKeys
      (settings.checksOf requests) where
  limit_pos := settings.limit_pos
  window_pos := by decide
  fixed c hc := by
    obtain ⟨r, -, rfl⟩ := List.mem_map.mp hc
    exact ⟨rfl, rfl⟩
  clock := List.pairwise_map.mpr (hclock.sublist List.filter_sublist)
  room := by
    have hkeys : (settings.checksOf requests).map Check.key =
        (requests.filter settings.passes).map rateKey := by
      rw [Settings.checksOf, List.map_map]
      rfl
    rw [hkeys]
    exact hroom

end Runs

section Configured
variable {settings : Settings} {configured : String} {requests before after : List GateRequest}
  {r : GateRequest}

/-- Whoever shows the key is counted under it. -/
theorem rateKey_of_key (hkey : settings.apiKey = some configured) (hasks : r.asksKey = true)
    (hpasses : settings.passes r = true) : rateKey r = hexOf configured := by
  have hprovided := ((requireApiKey_eq_ok_iff hkey).mp ((passes_of_asksKey hasks).mp hpasses)).1
  have hlength : 32 ≤ configured.length := settings.key_length configured hkey
  have hne : configured ≠ "" := by
    rintro rfl
    exact absurd hlength (by decide)
  rw [rateKey, identity, hprovided, if_pos hne]

theorem room_of_open (hkey : settings.apiKey = some configured)
    (hroom : ((requests.filter fun r => !r.asksKey).map rateKey).toFinset.card < maxKeys) :
    ((requests.filter settings.passes).map rateKey).toFinset.card ≤ maxKeys := by
  have hsub : ((requests.filter settings.passes).map rateKey).toFinset ⊆
      insert (hexOf configured) ((requests.filter fun r => !r.asksKey).map rateKey).toFinset := by
    intro k hk
    obtain ⟨r, hr, rfl⟩ := List.mem_map.mp (List.mem_toFinset.mp hk)
    obtain ⟨hmem, hpasses⟩ := List.mem_filter.mp hr
    rw [Finset.mem_insert, List.mem_toFinset]
    cases hasks : r.asksKey with
    | true => exact Or.inl (rateKey_of_key hkey hasks hpasses)
    | false => exact Or.inr (List.mem_map_of_mem (List.mem_filter.mpr ⟨hmem, by rw [hasks]; rfl⟩))
  have hinsert := Finset.card_insert_le (hexOf configured)
    ((requests.filter fun r => !r.asksKey).map rateKey).toFinset
  have hcard := Finset.card_le_card hsub
  omega

/-- A request that got past the key is made to wait only when its window is full. -/
theorem answerAfter_passes
    (hsteady : SteadyChecks settings.rateLimitPerMinute windowSeconds maxKeys
      (settings.checksOf (before ++ [r]))) (hpasses : settings.passes r = true) :
    answerAfter settings before r = .handled ∨
      (∃ seconds, answerAfter settings before r = .rateLimitExceeded seconds) ∧
        ((SlidingWindow.inWindow (windowSeconds : ℚ) (handledTimes settings
          (fun d => decide (rateKey d = rateKey r)) (empty maxKeys) before) r.now).length : ℤ) =
            settings.rateLimitPerMinute := by
  rw [checksOf_concat, if_pos hpasses] at hsteady
  have hspec := outcome_spec hsteady
  have hbefore := hsteady.sublist (List.sublist_append_left _ _)
  rw [answerAfter_of_passes hpasses]
  simp only at hspec
  split_ifs at hspec with hadmits
  · exact Or.inl (by rw [hspec]; rfl)
  · obtain ⟨first, rest, -, hresult⟩ := hspec
    have hle : ∀ a ∈ timesOf (rateKey r) (settings.checksOf before), a ≤ r.now :=
      timesOf_le hsteady.clock (rateKey r)
    have hlength := SlidingWindow.length_of_not_admits settings.rateLimitPerMinute.toNat
      (windowSeconds : ℚ) (timesOf_sorted hbefore.clock (rateKey r)) hle hadmits
    have hpos := settings.limit_pos
    refine Or.inr ⟨⟨_, by rw [hresult]; rfl⟩, ?_⟩
    rw [handledTimes_eq, acceptedTimes_eq hbefore, hlength]
    omega

/-- With a key in the settings, on a clock that does not go back and with room for the callers
that need no key: the endpoints that ask for the key are together reached no more often in any
window than the limit says; a request gets past the key only by showing it, and one that does not
is refused and changes no later answer; and any other request is handled, unless as many requests
of its caller as the limit says were handled in the window before it. -/
theorem gate_runs (settings : Settings) (configured : String)
    (hkey : settings.apiKey = some configured) (requests : List GateRequest)
    (hclock : requests.Pairwise fun a b => a.now ≤ b.now)
    (hroom : ((requests.filter fun r => !r.asksKey).map rateKey).toFinset.card < maxKeys) :
    (∀ t, ((SlidingWindow.inWindow (windowSeconds : ℚ) (handledTimes settings
      (fun r => r.asksKey) (empty maxKeys) requests) t).length : ℤ) ≤
        settings.rateLimitPerMinute) ∧
    ∀ before r after, requests = before ++ r :: after →
      (r.asksKey = true →
        (settings.passes r = true ↔ providedKey r = configured ∧ isAscii configured = true)) ∧
      (settings.passes r = false →
        answerAfter settings before r = keyRequired ∨ answerAfter settings before r = .uncaught) ∧
      answerAfter settings before r = answerAfter settings (before.filter settings.passes) r ∧
      (settings.passes r = true → answerAfter settings before r = .handled ∨
        (∃ seconds, answerAfter settings before r = .rateLimitExceeded seconds) ∧
          ((SlidingWindow.inWindow (windowSeconds : ℚ) (handledTimes settings
            (fun d => decide (rateKey d = rateKey r)) (empty maxKeys) before) r.now).length : ℤ) =
              settings.rateLimitPerMinute) := by
  have hsteady := checksOf_steady hclock (room_of_open hkey hroom)
  refine ⟨fun t => ?_, fun before r after hsplit => ⟨fun hasks => ?_, fun hfails => ?_,
    answerAfter_filter before r, fun hpasses => answerAfter_passes ?_ hpasses⟩⟩
  · have hsub : (handledTimes settings (fun r => r.asksKey) (empty maxKeys) requests).Sublist
        (handledTimes settings (fun r => decide (rateKey r = hexOf configured))
          (empty maxKeys) requests) :=
      handledTimes_sublist fun r _ hasks hpasses =>
        decide_eq_true (rateKey_of_key hkey hasks hpasses)
    have hwindow := acceptedTimes_inWindow hsteady (hexOf configured) t
    have hlength := (hsub.filter fun a => t - (windowSeconds : ℚ) < a ∧ a ≤ t).length_le
    rw [← handledTimes_eq] at hwindow
    exact (Int.ofNat_le.mpr hlength).trans hwindow
  · rw [passes_of_asksKey hasks, requireApiKey_eq_ok_iff hkey]
  · obtain ⟨answer, herror, hgate⟩ := passGate_of_not_passes
      (serve settings (empty maxKeys) before) hfails
    have hasks : r.asksKey = true := by
      by_contra hopen
      rw [passes_of_open (Bool.eq_false_iff.mpr hopen)] at hfails
      cases hfails
    rw [keyCheck, if_pos hasks] at herror
    rw [answerAfter, hgate]
    exact requireApiKey_error hkey herror
  · refine hsteady.sublist ?_
    rw [hsplit]
    refine List.Sublist.map _ (List.Sublist.filter _ ?_)
    exact (List.Sublist.refl before).append (List.singleton_sublist.mpr List.mem_cons_self)

section Sample

def sampleKey : String := "0123456789abcdef0123456789abcdef"

theorem sampleKey_length : ∀ key ∈ some sampleKey, 32 ≤ key.length := by
  rintro key ⟨⟩
  decide

theorem sampleKey_set : Environment.production = .production → some sampleKey ≠ none :=
  fun _ => Option.some_ne_none sampleKey

theorem sampleLimit_pos : (1 : ℤ) ≤ 1 := le_refl 1

theorem sampleLimit_le : (1 : ℤ) ≤ 10000 := by decide

def sampleSettings : Settings where
  environment := .production
  apiKey := some sampleKey
  rateLimitPerMinute := 1
  key_length := sampleKey_length
  production_key := sampleKey_set
  limit_pos := sampleLimit_pos
  limit_le := sampleLimit_le

/-- The key from two hosts, a request without it, and a signed submission. -/
def sampleRequests : List GateRequest :=
  [⟨true, some sampleKey, some "10.0.0.1", 0⟩, ⟨true, none, some "10.0.0.2", 1⟩,
    ⟨true, some sampleKey, some "10.0.0.3", 2⟩, ⟨false, none, some "10.0.0.4", 3⟩]

theorem gate_runs_sample : ((SlidingWindow.inWindow (windowSeconds : ℚ) (handledTimes
    sampleSettings (fun r => r.asksKey) (empty maxKeys) sampleRequests) 30).length : ℤ) ≤ 1 :=
  (gate_runs sampleSettings sampleKey rfl sampleRequests (by norm_num [sampleRequests])
    (lt_of_le_of_lt (List.toFinset_card_le _) (by simp [sampleRequests, maxKeys]))).1 30

end Sample
end Configured

end ContinuityOS.Security
