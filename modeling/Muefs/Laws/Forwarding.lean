import Muefs.Portal.Traffic

/-!
# Forwarded addresses

* `commaParts_append`, `hops_eq` : the entries of several lines are those of each of them, in order;
* `PeerAddress` : an address as a proxy writes it; `AppendStyle`, `Forwarder` : what a proxy does to the header;
* `throughProxies` : a request after a chain of proxies; `throughProxies_eq` : its peer and its entries;
* `clientIp_forwarded` : the law.
-/

namespace Muefs
open Formats

/-! ## The entries of a header -/

theorem commaParts_append_comma (a b : List Char) : commaParts (a ++ ',' :: b) = commaParts a ++ commaParts b := by
  unfold commaParts
  rw [List.splitOn_append_cons_self, List.map_append, List.filter_append]

theorem commaParts_nil : commaParts [] = [] := by decide

theorem commaParts_intercalate (lines : List (List Char)) :
    commaParts ([','].intercalate lines) = lines.flatMap commaParts := by
  induction lines with
  | nil => exact commaParts_nil
  | cons line lines ih =>
    cases lines with
    | nil => rw [List.intercalate_singleton, List.flatMap_cons, List.flatMap_nil, List.append_nil]
    | cons next lines =>
      rw [List.intercalate_cons_cons, List.append_assoc, List.singleton_append, commaParts_append_comma, ih]
      rfl

def lineHops (line : String) : List String := (commaParts line.toList).map String.ofList

theorem hops_eq (lines : List String) : hops lines = lines.flatMap lineHops := by
  unfold hops lineHops
  rw [String.toList_intercalate, show ",".toList = [','] from rfl, commaParts_intercalate, List.flatMap_map,
    List.map_flatMap]

/-! ## Proxies -/

/-- An address as a proxy writes it: some text without a comma, and without white space at its ends. -/
structure PeerAddress where
  text : String
  nonempty : text ≠ ""
  oneEntry : ',' ∉ text.toList
  trimmed : stripSpace text.toList = text.toList

/-- How a proxy appends: as a line of its own, or after a comma and a gap to the last line. -/
inductive AppendStyle where
  | newLine
  | lastLine (gap : List Char) (blank : ∀ c ∈ gap, isSpace c = true)

/-- The header after an address is appended. Where there is no line yet, the address is the first. -/
def AppendStyle.append (address : PeerAddress) : AppendStyle → List String → List String
  | .newLine, lines => lines ++ [address.text]
  | .lastLine _ _, [] => [address.text]
  | .lastLine gap _, [line] => [String.ofList (line.toList ++ ',' :: (gap ++ address.text.toList))]
  | .lastLine gap blank, line :: next :: lines =>
      line :: (AppendStyle.lastLine gap blank).append address (next :: lines)

/-- A proxy: the address it connects from, and how it appends. -/
structure Forwarder where
  address : PeerAddress
  style : AppendStyle

/-- The request of a peer after it went through the proxies, the one nearest to the peer first. -/
def throughProxies (peer : PeerAddress) (lines : List String) : List Forwarder → Arrived
  | [] => { client := some peer.text, forwardedFor := lines }
  | proxy :: rest => throughProxies proxy.address (proxy.style.append peer lines) rest

theorem stripSpace_blank_append (gap text : List Char) (h : ∀ c ∈ gap, isSpace c = true) :
    stripSpace (gap ++ text) = stripSpace text := by
  unfold stripSpace
  rw [List.dropWhile_append_of_pos h]

theorem PeerAddress.commaParts_eq (address : PeerAddress) (gap : List Char) (h : ∀ c ∈ gap, isSpace c = true) :
    commaParts (gap ++ address.text.toList) = [address.text.toList] := by
  have hcomma : ',' ∉ gap ++ address.text.toList := by
    intro hmem
    rcases List.mem_append.1 hmem with hgap | htext
    · exact absurd (h _ hgap) (by decide)
    · exact address.oneEntry htext
  have hne : address.text.toList ≠ [] := fun hnil => address.nonempty (String.toList_eq_nil_iff.1 hnil)
  unfold commaParts
  rw [List.splitOn_eq_singleton hcomma, List.map_singleton, stripSpace_blank_append gap _ h, address.trimmed]
  simp [hne]

theorem PeerAddress.lineHops_eq (address : PeerAddress) : lineHops address.text = [address.text] := by
  have h := address.commaParts_eq [] (by simp)
  rw [List.nil_append] at h
  unfold lineHops
  rw [h, List.map_singleton, String.ofList_toList]

theorem hops_append (style : AppendStyle) (address : PeerAddress) (lines : List String) :
    hops (style.append address lines) = hops lines ++ [address.text] := by
  rw [hops_eq, hops_eq]
  fun_induction AppendStyle.append address style lines with
  | case1 lines => rw [List.flatMap_append, List.flatMap_singleton, address.lineHops_eq]
  | case2 gap blank => rw [List.flatMap_singleton, address.lineHops_eq]; rfl
  | case3 gap blank line =>
    rw [List.flatMap_singleton, List.flatMap_singleton]
    unfold lineHops
    rw [String.toList_ofList, commaParts_append_comma, address.commaParts_eq gap blank, List.map_append,
      List.map_singleton, String.ofList_toList]
  | case4 gap blank line next lines ih =>
    rw [List.flatMap_cons, ih, ← List.append_assoc, ← List.flatMap_cons]

/-- **What arrives.** The entries the client sent, then the peers of all proxies but the last, then the last as peer. -/
theorem throughProxies_eq (peer : PeerAddress) (lines : List String) (proxies : List Forwarder) :
    ∃ peers last, peers ++ [last] = peer :: proxies.map Forwarder.address ∧
      (throughProxies peer lines proxies).client = some last.text ∧
      hops (throughProxies peer lines proxies).forwardedFor = hops lines ++ peers.map PeerAddress.text := by
  induction proxies generalizing peer lines with
  | nil => exact ⟨[], peer, rfl, rfl, (List.append_nil _).symm⟩
  | cons proxy rest ih =>
    obtain ⟨peers, last, hpeers, hclient, hhops⟩ := ih proxy.address (proxy.style.append peer lines)
    refine ⟨peer :: peers, last, ?_, hclient, ?_⟩
    · rw [List.cons_append, hpeers, List.map_cons]
    · unfold throughProxies
      rw [hhops, hops_append, List.append_assoc]
      rfl

/-! ## The walk -/

theorem lastHop_trusted (trusted : String → Bool) (address hop : String) (passed rest : List String)
    (hpassed : ∀ a ∈ passed, trusted a = true) (hhop : trusted hop = false) :
    lastHop trusted address (passed ++ hop :: rest) = hop := by
  induction passed generalizing address with
  | nil =>
    rw [List.nil_append, lastHop, hhop]
    rfl
  | cons a passed ih =>
    rw [List.cons_append, lastHop, hpassed a List.mem_cons_self]
    exact ih a fun b hb => hpassed b (List.mem_cons_of_mem _ hb)

/-- **The client's address.** Behind trusted proxies, each of which appends its peer, the address of a client outside
the trusted networks is found, whatever the client itself sent; and the headers of a peer that is not trusted
have no effect. -/
theorem clientIp_forwarded (settings : ProxySettings) :
    (∀ (client : PeerAddress) (content : List String) (proxies : List Forwarder), proxies ≠ [] →
      (∀ proxy ∈ proxies, settings.isTrustedProxy proxy.address.text = true) →
      settings.isTrustedProxy client.text = false →
      clientIp settings (throughProxies client content proxies) = some client.text) ∧
    ∀ (peer : String) (content : List String), settings.isTrustedProxy peer = false →
      clientIp settings { client := some peer, forwardedFor := content } = some peer := by
  constructor
  · intro client content proxies hproxies htrusted hclient
    obtain ⟨peers, last, hpeers, hpeer, hhops⟩ := throughProxies_eq client content proxies
    cases peers with
    | nil =>
      have hlength := congrArg List.length hpeers
      simp only [List.nil_append, List.length_cons, List.length_nil, List.length_map] at hlength
      exact absurd (List.length_eq_zero_iff.1 (by omega)) hproxies
    | cons first peers =>
      rw [List.cons_append, List.cons_eq_cons] at hpeers
      obtain ⟨rfl, hpeers⟩ := hpeers
      have htrustedAll : ∀ a ∈ peers ++ [last], settings.isTrustedProxy a.text = true := by
        intro a ha
        rw [hpeers] at ha
        obtain ⟨proxy, hproxy, rfl⟩ := List.mem_map.1 ha
        exact htrusted proxy hproxy
      have hlast := htrustedAll last (List.mem_append_right _ (List.mem_singleton_self last))
      unfold clientIp
      rw [hpeer]
      simp only [hlast, if_true]
      rw [hhops, List.map_cons, List.reverse_append, List.reverse_cons, List.append_assoc, List.singleton_append,
        lastHop_trusted]
      · intro a ha
        obtain ⟨b, hb, rfl⟩ := List.mem_map.1 (List.mem_reverse.1 ha)
        exact htrustedAll b (List.mem_append_left _ hb)
      · exact hclient
  · intro peer content hpeer
    unfold clientIp
    simp only [hpeer, Bool.false_eq_true, if_false]

/-- Two proxies of one network, and a client that sends entries of its own. -/
theorem clientIp_forwarded_example :
    let settings : ProxySettings := ⟨"10.0.0.0/8", by decide +kernel⟩
    let client : PeerAddress := ⟨"203.0.113.9", by decide +kernel, by decide +kernel, by decide +kernel⟩
    let outer : PeerAddress := ⟨"10.0.0.2", by decide +kernel, by decide +kernel, by decide +kernel⟩
    let inner : PeerAddress := ⟨"10.0.0.1", by decide +kernel, by decide +kernel, by decide +kernel⟩
    clientIp settings (throughProxies client ["10.9.9.9, ,", "6.6.6.6"]
      [⟨outer, .lastLine [' '] (List.forall_mem_singleton.2 rfl)⟩, ⟨inner, .newLine⟩]) = some "203.0.113.9" ∧
    clientIp settings { client := some "198.51.100.7", forwardedFor := ["6.6.6.6"] } = some "198.51.100.7" := by
  intro settings client outer inner
  constructor
  · refine (clientIp_forwarded settings).1 client _ _ (by simp) ?_ (by decide +kernel)
    intro proxy hproxy
    simp only [List.mem_cons, List.not_mem_nil, or_false] at hproxy
    rcases hproxy with rfl | rfl
    · decide +kernel
    · decide +kernel
  · exact (clientIp_forwarded settings).2 _ _ (by decide +kernel)

end Muefs
