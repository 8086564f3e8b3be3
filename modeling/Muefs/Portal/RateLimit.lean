import Muefs.Formats.Dictionaries
import Muefs.Listings.Windows
import Muefs.Portal.Traffic
import Mathlib.Algebra.Order.Ring.Rat

/-!
# Rate limits

* `RateLimitSettings`, `Bucket`, `pathBucket`, `limitForBucket` : the limit that a request counts against;
* `MemStore`, `MemoryLimiter` : the times that the limiter in memory keeps for every key, and its last cleanup;
* `memoryCheckAllow` : one decision; `decisions` : the decisions for a sequence of calls;
* `limitedCall`, `dispatch` : the middleware with the limiter in memory.
-/

namespace Muefs
open Formats Listings

/-! ## Limits -/

/-- The settings that the limiter in memory reads. -/
structure RateLimitSettings where
  enabled : Bool := true
  defaultPerMinute : Int := 120
  searchPerMinute : Int := 30
  documentPerMinute : Int := 60

inductive Bucket where
  | search
  | document
  | default
  deriving DecidableEq, Repr

def Bucket.name : Bucket → String
  | .search => "search"
  | .document => "document"
  | .default => "default"

/-- `part in text` -/
def containsText (part text : List Char) : Bool := text.tails.any part.isPrefixOf

/-- `_path_bucket` -/
def pathBucket (path : String) : Bucket :=
  let text := path.toList
  let trimmed := (text.reverse.dropWhile (· == '/')).reverse
  if "/cases/search".toList.isSuffixOf trimmed then .search
  else if "/download".toList.isSuffixOf text || "/verify".toList.isSuffixOf text ||
      (containsText "/deliveries/".toList text && containsText "/documents/".toList text) then .document
  else .default

/-- `_limit_for_bucket` -/
def limitForBucket (settings : RateLimitSettings) : Bucket → Int
  | .search => settings.searchPerMinute
  | .document => settings.documentPerMinute
  | .default => settings.defaultPerMinute

/-! ## The store -/

/-- `_mem_store`: a dictionary sets no key twice. -/
structure MemStore where
  entries : List (String × List ℚ)
  unique : (entries.map (·.1)).Nodup

def MemStore.empty : MemStore := ⟨[], .nil⟩

/-- `_mem_store[key]` -/
def MemStore.get (store : MemStore) (key : String) : List ℚ := (getKey store.entries key).getD []

/-- `_mem_store[key] = times` -/
def MemStore.set (store : MemStore) (key : String) (times : List ℚ) : MemStore :=
  ⟨setKey store.entries key times, nodup_setKey store.unique key times⟩

/-- `del _mem_store[k]`, for every key whose times are stale. -/
def MemStore.drop (store : MemStore) (stale : List ℚ → Bool) : MemStore :=
  ⟨store.entries.filter fun p => !stale p.2, (List.filter_sublist.map _).nodup store.unique⟩

/-- The limiter in memory. The clock is exact. -/
structure MemoryLimiter where
  store : MemStore
  lastCleanup : ℚ

/-- The limiter of a process that starts. -/
def MemoryLimiter.start : MemoryLimiter := ⟨.empty, 0⟩

/-- `_MEM_CLEANUP_INTERVAL` -/
def memCleanupInterval : ℚ := 300

/-- `_MEM_MAX_KEYS` -/
def memMaxKeys : Nat := 10000

/-- `window_sec` -/
def windowSec : ℚ := 60

/-- `not ts or now - ts[-1] > window_sec` -/
def isStale (now : ℚ) (times : List ℚ) : Bool :=
  match times.getLast? with
  | none => true
  | some last => decide (windowSec < now - last)

/-- The cleanup that comes before a decision, when it is due. -/
def MemoryLimiter.cleanup (limiter : MemoryLimiter) (now : ℚ) : MemoryLimiter :=
  if memCleanupInterval < now - limiter.lastCleanup ∨ memMaxKeys < limiter.store.entries.length then
    ⟨limiter.store.drop (isStale now), now⟩
  else limiter

/-! ## Decisions -/

/-- What `_memory_check_allow` is called with, and the time that it reads. -/
structure Call where
  now : ℚ
  clientIp : String
  bucket : Bucket

def Call.key (call : Call) : Bucket × String := (call.bucket, call.clientIp)

/-- `f"{bucket}:{client_ip}"` -/
def memKey (key : Bucket × String) : String := key.1.name ++ ":" ++ key.2

/-- `_memory_check_allow` -/
def memoryCheckAllow (settings : RateLimitSettings) (call : Call) (limiter : MemoryLimiter) : Bool × MemoryLimiter :=
  let limit := limitForBucket settings call.bucket
  let key := memKey call.key
  let limiter := limiter.cleanup call.now
  let kept := (limiter.store.get key).filter fun t => decide (call.now - t < windowSec)
  if limit ≤ (kept.length : Int) then (false, { limiter with store := limiter.store.set key kept })
  else (true, { limiter with store := limiter.store.set key (kept ++ [call.now]) })

/-- The decisions for a sequence of calls. -/
def decisions (settings : RateLimitSettings) : MemoryLimiter → List Call → List (Decision (Bucket × String) ℚ)
  | _, [] => []
  | limiter, call :: calls =>
    let (allowed, limiter') := memoryCheckAllow settings call limiter
    ⟨call.key, call.now, allowed⟩ :: decisions settings limiter' calls

/-! ## The middleware -/

/-- What the middleware reads of a request. -/
structure Incoming where
  now : ℚ
  method : String
  path : String
  arrived : Arrived

/-- `client_ip(request) or "unknown"` -/
def clientAddress (proxies : ProxySettings) (request : Arrived) : String :=
  match clientIp proxies request with
  | some ip => if ip = "" then "unknown" else ip
  | none => "unknown"

/-- The call for a request, if it counts against a limit. -/
def limitedCall (settings : RateLimitSettings) (proxies : ProxySettings) (request : Incoming) : Option Call :=
  if settings.enabled = false then none
  else if "/api/".toList.isPrefixOf request.path.toList = false ∨ request.method = "OPTIONS" then none
  else some ⟨request.now, clientAddress proxies request.arrived, pathBucket request.path⟩

/-- `dispatch`: whether the request goes on; where it does not, it is answered with 429. -/
def dispatch (settings : RateLimitSettings) (proxies : ProxySettings) (request : Incoming) (limiter : MemoryLimiter) :
    Bool × MemoryLimiter :=
  match limitedCall settings proxies request with
  | none => (true, limiter)
  | some call => memoryCheckAllow settings call limiter

/-- Which requests of a sequence go on. -/
def dispatchAll (settings : RateLimitSettings) (proxies : ProxySettings) : MemoryLimiter → List Incoming → List Bool
  | _, [] => []
  | limiter, request :: requests =>
    let (goesOn, limiter') := dispatch settings proxies request limiter
    goesOn :: dispatchAll settings proxies limiter' requests

end Muefs
