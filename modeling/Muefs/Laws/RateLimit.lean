import Muefs.Portal.RateLimit

/-!
# The rate limiter slides a window

* `Tracks` : what the store keeps of every key is what was allowed, as far as it is recent; a cleanup keeps this;
* `decisions_slides` : the decisions of the limiter follow the rule of the sliding window;
* `RateLimited` : no window has more requests than the limit, and a request is denied only when the limit is reached;
* `decisions_sound` : the law; `dispatchAll_decisions` : the middleware goes by these decisions.
-/

namespace Muefs
open Formats Listings

variable {settings : RateLimitSettings} {limiter : MemoryLimiter} {now moment : ℚ} {times : List ℚ}

/-! ## The store -/

theorem memKey_injective : Function.Injective memKey := by
  rintro ⟨bucket, ip⟩ ⟨bucket', ip'⟩ h
  have htext := congrArg String.toList h
  simp only [memKey, String.toList_append] at htext
  cases bucket <;> cases bucket' <;> simp_all [Bucket.name, String.toList_inj]

theorem MemStore.get_set_self (store : MemStore) (k : String) (times : List ℚ) : (store.set k times).get k = times := by
  unfold get set
  rw [getKey_setKey_self, Option.getD_some]

theorem MemStore.get_set_ne (store : MemStore) {k k' : String} (times : List ℚ) (h : k' ≠ k) :
    (store.set k times).get k' = store.get k' := by
  unfold get set
  rw [getKey_setKey_ne times h]

theorem MemStore.get_drop (store : MemStore) (stale : List ℚ → Bool) (k : String) :
    (store.drop stale).get k = store.get k ∨ (store.drop stale).get k = [] ∧ stale (store.get k) = true := by
  unfold get drop
  rw [getKey_filter store.unique]
  cases getKey store.entries k with
  | none => exact .inl rfl
  | some times =>
    cases hstale : stale times with
    | false => exact .inl (by rw [Option.filter_some_pos (by rw [hstale]; rfl)])
    | true => exact .inr ⟨by rw [Option.filter_some_neg (by simp [hstale])]; rfl, hstale⟩

theorem MemoryLimiter.get_cleanup (limiter : MemoryLimiter) (now : ℚ) (k : String) :
    (limiter.cleanup now).store.get k = limiter.store.get k ∨
      (limiter.cleanup now).store.get k = [] ∧ isStale now (limiter.store.get k) = true := by
  unfold cleanup
  split_ifs
  · exact limiter.store.get_drop (isStale now) k
  · exact .inl rfl

theorem recent_of_isStale (hordered : times.Pairwise (· ≤ ·)) (hstale : isStale now times = true) {later : ℚ}
    (hlater : now ≤ later) : recent windowSec later times = [] := by
  rcases List.eq_nil_or_concat times with rfl | ⟨init, last, rfl⟩
  · rfl
  · rw [List.concat_eq_append] at hordered hstale ⊢
    rw [isStale, List.getLast?_concat] at hstale
    have hlast : ∀ t ∈ init ++ [last], t ≤ last := by
      intro t ht
      rcases List.mem_append.1 ht with ht | ht
      · exact (List.pairwise_append.1 hordered).2.2 t ht last (List.mem_singleton_self _)
      · exact le_of_eq (List.mem_singleton.1 ht)
    exact recent_eq_nil hlast ((of_decide_eq_true hstale).le.trans (sub_le_sub_right hlater last))

/-! ## What the store knows -/

variable {ds : List (Decision (Bucket × String) ℚ)}

/-- The limiter after these decisions, none of them after this moment. -/
structure Tracks (moment : ℚ) (limiter : MemoryLimiter) (ds : List (Decision (Bucket × String) ℚ)) : Prop where
  ordered : ∀ key, (limiter.store.get (memKey key)).Pairwise (· ≤ ·)
  past : ∀ key, ∀ t ∈ limiter.store.get (memKey key), t ≤ moment
  known : ∀ key now, moment ≤ now →
    recent windowSec now (limiter.store.get (memKey key)) = recent windowSec now (admitted key ds)

theorem Tracks.start (moment : ℚ) : Tracks moment .start [] where
  ordered _ := .nil
  past _ _ ht := absurd ht List.not_mem_nil
  known _ _ _ := rfl

theorem Tracks.later (h : Tracks moment limiter ds) (hnow : moment ≤ now) : Tracks now limiter ds where
  ordered := h.ordered
  past key t ht := (h.past key t ht).trans hnow
  known key now' hnow' := h.known key now' (hnow.trans hnow')

theorem Tracks.cleanup (h : Tracks now limiter ds) : Tracks now (limiter.cleanup now) ds where
  ordered key := by
    rcases limiter.get_cleanup now (memKey key) with hsame | ⟨hnone, -⟩
    · rw [hsame]
      exact h.ordered key
    · rw [hnone]
      exact .nil
  past key t ht := by
    rcases limiter.get_cleanup now (memKey key) with hsame | ⟨hnone, -⟩
    · exact h.past key t (hsame ▸ ht)
    · exact absurd (hnone ▸ ht) List.not_mem_nil
  known key later hlater := by
    rcases limiter.get_cleanup now (memKey key) with hsame | ⟨hnone, hstale⟩
    · rw [hsame]
      exact h.known key later hlater
    · rw [hnone, ← h.known key later hlater, recent_of_isStale (h.ordered key) hstale hlater]
      rfl

theorem Tracks.set (h : Tracks now limiter ds) (key : Bucket × String) (allowed : Bool) {kept : List ℚ}
    (hkept : kept = recent windowSec now (limiter.store.get (memKey key)) ++ if allowed then [now] else []) :
    Tracks now { limiter with store := limiter.store.set (memKey key) kept } (ds ++ [⟨key, now, allowed⟩]) := by
  have hother : ∀ {key'}, key' ≠ key → (limiter.store.set (memKey key) kept).get (memKey key') =
      limiter.store.get (memKey key') := fun hne => limiter.store.get_set_ne kept (memKey_injective.ne hne)
  have hself := limiter.store.get_set_self (memKey key) kept
  have hpast : ∀ t ∈ recent windowSec now (limiter.store.get (memKey key)), t ≤ now :=
    fun t ht => h.past key t (List.mem_of_mem_filter ht)
  refine ⟨fun key' => ?_, fun key' t ht => ?_, fun key' later hlater => ?_⟩
  · by_cases hkey : key' = key
    · subst hkey
      rw [hself, hkept, List.pairwise_append]
      refine ⟨(h.ordered key').filter _, ?_, fun t ht t' ht' => ?_⟩
      · cases allowed
        · exact .nil
        · exact List.pairwise_singleton _ _
      · cases allowed
        · cases ht'
        · rw [List.mem_singleton.1 ht']
          exact hpast t ht
    · rw [hother hkey]
      exact h.ordered key'
  · by_cases hkey : key' = key
    · subst hkey
      rw [hself, hkept] at ht
      rcases List.mem_append.1 ht with ht | ht
      · exact hpast t ht
      · cases allowed
        · cases ht
        · exact le_of_eq (List.mem_singleton.1 ht)
    · rw [hother hkey] at ht
      exact h.past key' t ht
  · rw [admitted_append, recent_append]
    by_cases hkey : key' = key
    · subst hkey
      rw [hself, hkept, recent_append, recent_recent hlater, h.known key' later hlater]
      cases allowed
      · rw [admitted_single_denied rfl]
        rfl
      · rw [admitted_single_allowed (d := ⟨key', now, true⟩) rfl]
        rfl
    · rw [hother hkey, h.known key' later hlater, admitted_single_ne (Ne.symm hkey), recent_nil, List.append_nil]

/-! ## The decisions -/

theorem memoryCheckAllow_tracks (settings : RateLimitSettings) {call : Call} (h : Tracks call.now limiter ds) :
    (memoryCheckAllow settings call limiter).1 =
      decide (((recent windowSec call.now (admitted call.key ds)).length : Int) <
        limitForBucket settings call.bucket) ∧
      Tracks call.now (memoryCheckAllow settings call limiter).2
        (ds ++ [⟨call.key, call.now, (memoryCheckAllow settings call limiter).1⟩]) := by
  have hclean := h.cleanup
  have hknown := hclean.known call.key call.now le_rfl
  unfold memoryCheckAllow
  rw [← hknown]
  dsimp only
  split_ifs with hfull
  · refine ⟨(decide_eq_false (not_lt.2 hfull)).symm, hclean.set call.key false ?_⟩
    exact (List.append_nil _).symm
  · exact ⟨(decide_eq_true (not_le.1 hfull)).symm, hclean.set call.key true rfl⟩

theorem decisions_cons (settings : RateLimitSettings) (limiter : MemoryLimiter) (call : Call) (calls : List Call) :
    decisions settings limiter (call :: calls) =
      ⟨call.key, call.now, (memoryCheckAllow settings call limiter).1⟩ ::
        decisions settings (memoryCheckAllow settings call limiter).2 calls := rfl

/-- **The limiter follows the rule of the sliding window.** -/
theorem decisions_slides {calls : List Call} (h : Tracks moment limiter ds)
    (hslides : Slides windowSec (fun key => limitForBucket settings key.1) ds)
    (hclock : calls.Pairwise fun a b => a.now ≤ b.now) (hlater : ∀ call ∈ calls, moment ≤ call.now) :
    Slides windowSec (fun key => limitForBucket settings key.1) (ds ++ decisions settings limiter calls) := by
  induction calls generalizing moment limiter ds with
  | nil =>
    rw [decisions, List.append_nil]
    exact hslides
  | cons call calls ih =>
    obtain ⟨hfirst, hrest⟩ := List.pairwise_cons.1 hclock
    obtain ⟨hrule, htracks⟩ := memoryCheckAllow_tracks settings (h.later (hlater call List.mem_cons_self))
    rw [decisions_cons, ← List.singleton_append, ← List.append_assoc]
    exact ih htracks (.snoc hslides hrule) hrest hfirst

theorem decisions_calls (settings : RateLimitSettings) (limiter : MemoryLimiter) (calls : List Call) :
    (decisions settings limiter calls).map (fun d => (d.key, d.time)) = calls.map fun call => (call.key, call.now) := by
  induction calls generalizing limiter with
  | nil => rfl
  | cons call calls ih => rw [decisions_cons, List.map_cons, List.map_cons, ih]

theorem decisionsFor_times (settings : RateLimitSettings) (limiter : MemoryLimiter) (calls : List Call)
    (key : Bucket × String) : (decisionsFor key (decisions settings limiter calls)).map Decision.time =
      (calls.filter fun call => decide (call.key = key)).map Call.now := by
  unfold decisionsFor
  induction calls generalizing limiter with
  | nil => rfl
  | cons call calls ih =>
    rw [decisions_cons]
    by_cases hkey : call.key = key
    · simp only [List.filter_cons, decide_eq_true hkey, if_true, List.map_cons, ih]
    · simp only [List.filter_cons, decide_eq_false hkey, Bool.false_eq_true, if_false, ih]

/-! ## The law -/

/-- A limiter with these limits: no window has more requests of a client than the limit of the bucket, and a request is
denied just if its client had as many in the window before it. A limit below zero counts as none. -/
structure RateLimited (settings : RateLimitSettings) (ds : List (Decision (Bucket × String) ℚ)) : Prop where
  from_start : ∀ key s, ((admitted key ds).filter fun t => decide (s ≤ t ∧ t < s + 60)).length ≤
    (limitForBucket settings key.1).toNat
  to_end : ∀ key s, ((admitted key ds).filter fun t => decide (s < t ∧ t ≤ s + 60)).length ≤
    (limitForBucket settings key.1).toNat
  denied : ∀ pre d post, ds = pre ++ d :: post → (d.allowed = false ↔
    ((admitted d.key pre).filter fun t => decide (d.time - 60 < t ∧ t ≤ d.time)).length =
      (limitForBucket settings d.key.1).toNat)

/-- **The rate limiter in memory.** Whatever is asked of it, in the order of the clock: it decides every call; it is
limited as it should be; and its decisions for a client are the same whatever the others ask. -/
theorem decisions_sound (settings : RateLimitSettings) {calls : List Call}
    (hclock : calls.Pairwise fun a b => a.now ≤ b.now) :
    (decisions settings .start calls).map (fun d => (d.key, d.time)) = calls.map (fun call => (call.key, call.now)) ∧
    RateLimited settings (decisions settings .start calls) ∧
    ∀ others : List Call, others.Pairwise (fun a b => a.now ≤ b.now) → ∀ key,
      others.filter (fun call => decide (call.key = key)) = calls.filter (fun call => decide (call.key = key)) →
      decisionsFor key (decisions settings .start others) = decisionsFor key (decisions settings .start calls) := by
  have hslides : ∀ {calls : List Call}, calls.Pairwise (fun a b => a.now ≤ b.now) →
      Slides windowSec (fun key => limitForBucket settings key.1) (decisions settings .start calls) := by
    intro calls hclock
    cases calls with
    | nil => exact .nil
    | cons call calls =>
      refine decisions_slides (.start call.now) .nil hclock fun other hother => ?_
      rcases List.mem_cons.1 hother with rfl | hother
      · exact le_rfl
      · exact (List.pairwise_cons.1 hclock).1 other hother
  refine ⟨decisions_calls settings .start calls, ⟨fun key s => ?_, fun key s => ?_, fun pre d post hds => ?_⟩, ?_⟩
  · refine (hslides hclock).bounded key _ fun t t' ht ht' => ?_
    rw [decide_eq_true_eq] at ht ht'
    exact sub_lt_iff_lt_add'.2 (ht'.2.trans_le (add_le_add_left ht.1 60))
  · refine (hslides hclock).bounded key _ fun t t' ht ht' => ?_
    rw [decide_eq_true_eq] at ht ht'
    exact sub_lt_iff_lt_add'.2 (ht'.2.trans_lt (add_lt_add_left ht.1 60))
  · refine (hslides hclock).denied hds fun e he => ?_
    have htimes : ((decisions settings .start calls).map Decision.time).Pairwise (· ≤ ·) := by
      have heq := congrArg (List.map Prod.snd) (decisions_calls settings .start calls)
      rw [List.map_map, List.map_map] at heq
      rw [show (decisions settings .start calls).map Decision.time = calls.map Call.now from heq, List.pairwise_map]
      exact hclock
    rw [hds, List.map_append, List.map_cons, List.pairwise_append] at htimes
    exact htimes.2.2 e.time (List.mem_map_of_mem he) d.time List.mem_cons_self
  · intro others hothers key hsame
    rw [(hslides hothers).replayed key, (hslides hclock).replayed key, decisionsFor_times, decisionsFor_times, hsame]

/-- Three requests of a client within a minute and a bit, with another client between them. -/
def searchCalls : List Call :=
  [⟨0, "192.0.2.1", .search⟩, ⟨30, "192.0.2.2", .search⟩, ⟨59, "192.0.2.1", .search⟩, ⟨60, "192.0.2.1", .search⟩]

/-- With one search a minute, the second request of the client is denied. -/
theorem decisions_sound_search :
    (decisions { searchPerMinute := 1 } .start searchCalls).map Decision.allowed = [true, true, false, true] ∧
    RateLimited { searchPerMinute := 1 } (decisions { searchPerMinute := 1 } .start searchCalls) :=
  ⟨by decide +kernel, (decisions_sound { searchPerMinute := 1 } (by decide +kernel)).2.1⟩

/-! ## The middleware -/

theorem dispatchAll_unlimited {proxies : ProxySettings} {requests : List Incoming} {request : Incoming} {goesOn : Bool}
    (hmem : (request, goesOn) ∈ requests.zip (dispatchAll settings proxies limiter requests))
    (hnone : limitedCall settings proxies request = none) : goesOn = true := by
  induction requests generalizing limiter with
  | nil => cases hmem
  | cons first requests ih =>
    rw [dispatchAll, List.zip_cons_cons] at hmem
    rcases List.mem_cons.1 hmem with heq | hmem
    · cases heq
      rw [dispatch, hnone]
    · exact ih hmem

/-- **The middleware goes by the decisions of the limiter**: those for the requests that count against a limit. -/
theorem dispatchAll_decisions (settings : RateLimitSettings) (proxies : ProxySettings) (limiter : MemoryLimiter)
    (requests : List Incoming) :
    (requests.zip (dispatchAll settings proxies limiter requests)).filterMap (fun p =>
        (limitedCall settings proxies p.1).map fun call => (⟨call.key, call.now, p.2⟩ : Decision (Bucket × String) ℚ)) =
      decisions settings limiter (requests.filterMap (limitedCall settings proxies)) := by
  induction requests generalizing limiter with
  | nil => rfl
  | cons request requests ih =>
    rw [dispatchAll, List.zip_cons_cons, List.filterMap_cons, List.filterMap_cons, ih]
    unfold dispatch
    cases hcall : limitedCall settings proxies request with
    | none => rfl
    | some call => rfl

end Muefs
