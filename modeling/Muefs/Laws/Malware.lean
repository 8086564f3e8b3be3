import Muefs.Portal.Malware

/-!
# Malware screening fails closed

* `readInstream` : how the daemon reads a file out of what is sent; `readInstream_slices` : it reads the
  file that was sent;
* `received` : the bytes of a connection; `receive_prefix` : a reply is the beginning of them;
* `receive_fragments` : a reply of one line is read whole, however it is cut;
* `scanUpload_failsClosed` : the law.
-/

namespace Muefs
open Formats

/-! ## The file in chunks -/

/-- A file from chunks that tell their lengths, and a last one of no length. -/
def readInstream (bytes : Bytes) : Option Bytes :=
  match bytes with
  | a :: b :: c :: d :: rest =>
    let n := bigEndian [a, b, c, d]
    if n = 0 then if rest = [] then some [] else none
    else if rest.length < n then none
    else (readInstream (rest.drop n)).map (rest.take n ++ ·)
  | _ => none
termination_by bytes.length
decreasing_by
  rw [List.length_drop]
  simp only [List.length_cons]
  omega

theorem bigEndian_packed {n : Nat} (h : n < 4294967296) : bigEndian (packed n) = n := by
  unfold bigEndian packed
  simp only [List.foldl_cons, List.foldl_nil, UInt8.toNat_ofNat', Nat.reducePow]
  omega

theorem readInstream_chunk {chunk rest : Bytes} (hne : chunk ≠ []) (h : chunk.length < 4294967296) :
    readInstream (packed chunk.length ++ (chunk ++ rest)) = (readInstream rest).map (chunk ++ ·) := by
  have hpos : 0 < chunk.length := List.length_pos_iff.2 hne
  have hn := bigEndian_packed h
  unfold packed at hn ⊢
  simp only [List.cons_append, List.nil_append]
  rw [readInstream]
  simp only [hn]
  rw [if_neg (by omega), if_neg (by rw [List.length_append]; omega), List.take_left, List.drop_left]

theorem readInstream_end : readInstream [0, 0, 0, 0] = some [] := by
  rw [readInstream]
  decide

theorem readInstream_from (data : Bytes) (n offset : Nat) (hfrom : data.length ≤ offset + n * 65536)
    (hto : offset + n * 65536 < data.length + 65536) :
    readInstream ((((List.range' offset n 65536).map fun offset => (data.drop offset).take 65536).flatMap
      fun chunk => [packed chunk.length, chunk]).flatten ++ [0, 0, 0, 0]) = some (data.drop offset) := by
  induction n generalizing offset with
  | zero =>
    rw [List.range'_zero, List.map_nil, List.flatMap_nil, List.flatten_nil, List.nil_append, readInstream_end,
      List.drop_eq_nil_of_le (by omega)]
  | succ n ih =>
    have hlength : ((data.drop offset).take 65536).length = min 65536 (data.length - offset) := by
      rw [List.length_take, List.length_drop]
    have hne : (data.drop offset).take 65536 ≠ [] := by
      rw [← List.length_pos_iff, hlength]
      omega
    have hsmall : ((data.drop offset).take 65536).length < 4294967296 := by
      rw [hlength]
      omega
    rw [List.range'_succ, List.map_cons, List.flatMap_cons, List.flatten_append, List.flatten_cons, List.flatten_cons,
      List.flatten_nil, List.append_nil, List.append_assoc, List.append_assoc, readInstream_chunk hne hsmall,
      ih (offset + 65536) (by omega) (by omega), Option.map_some, ← List.drop_drop, List.take_append_drop]

theorem readInstream_transmission (fileData : Bytes) :
    readInstream ((transmission fileData).drop 1).flatten = some fileData := by
  unfold transmission
  rw [List.append_assoc, List.singleton_append, List.drop_succ_cons, List.drop_zero, List.flatten_append,
    List.flatten_singleton]
  unfold slices
  have h := readInstream_from fileData ((fileData.length + 65536 - 1) / 65536) 0 (by omega) (by omega)
  rwa [List.drop_zero] at h

/-! ## The reply -/

/-- The bytes of a connection until it closes or fails. -/
def received : List Arrival → Bytes
  | .bytes part :: rest => if part = [] then [] else part ++ received rest
  | .failed :: _ => []
  | [] => []

theorem recv_received {limit : Nat} {arrivals rest : List Arrival} {part : Bytes}
    (h : recv limit arrivals = .ok (part, rest)) (hpart : part ≠ []) : received arrivals = part ++ received rest := by
  cases arrivals with
  | nil => exact absurd h (by simp [recv])
  | cons arrival arrivals =>
    cases arrival with
    | failed => exact absurd h (by simp [recv])
    | bytes whole =>
      simp only [recv, Except.ok.injEq, Prod.mk.injEq] at h
      obtain ⟨rfl, rfl⟩ := h
      have hwhole : whole ≠ [] := fun hnil => hpart (by rw [hnil, List.take_nil])
      rw [received, if_neg hwhole]
      by_cases hlimit : whole.length ≤ limit
      · rw [if_pos hlimit, List.take_of_length_le hlimit]
      · have hdrop : whole.drop limit ≠ [] := by
          rw [← List.length_pos_iff, List.length_drop]
          omega
        rw [if_neg hlimit, received, if_neg hdrop, ← List.append_assoc, List.take_append_drop]

/-- **A reply is the beginning of the bytes that were received.** -/
theorem receive_prefix {response out : Bytes} {arrivals : List Arrival} (h : receive response arrivals = .ok out) :
    out <+: response ++ received arrivals := by
  fun_induction receive response arrivals with
  | case1 response arrivals hend =>
    cases h
    exact List.prefix_append _ _
  | case2 => cases h
  | case3 => cases h
  | case4 => cases h
  | case5 response arrivals _ _ part rest hrecv hpart ih =>
    rw [recv_received hrecv hpart, ← List.append_assoc]
    exact ih h

theorem receive_fragments (line : Bytes) (hline : 0 ∉ line) (hlength : line.length < 4096) (response : Bytes)
    (parts : List Bytes) (hparts : ∀ part ∈ parts, part ≠ []) (h : response ++ parts.flatten = line ++ [0])
    (more : List Arrival) : receive response (parts.map .bytes ++ more) = .ok (line ++ [0]) := by
  induction parts generalizing response with
  | nil =>
    rw [List.flatten_nil, List.append_nil] at h
    rw [receive, h, if_pos List.getLast?_concat]
  | cons part parts ih =>
    have hpart : part ≠ [] := hparts part List.mem_cons_self
    have hpos : 0 < part.length := List.length_pos_iff.2 hpart
    have hsum := congrArg List.length h
    simp only [List.flatten_cons, List.length_append, List.length_cons, List.length_nil] at hsum
    have hbefore : response <+: line := by
      have hprefix : response <+: line ++ [0] := ⟨_, h⟩
      exact List.prefix_of_prefix_length_le hprefix (List.prefix_append _ _) (by omega)
    have hopen : response.getLast? ≠ some 0 := fun hlast => hline (hbefore.subset (List.mem_of_getLast? hlast))
    have htake : part.take (4096 - response.length) = part := List.take_of_length_le (by omega)
    rw [receive, if_neg hopen, if_neg (by omega), List.map_cons, List.cons_append]
    simp only [recv, htake, if_neg hpart]
    rw [if_pos (by omega)]
    refine ih _ (fun p hp => hparts p (List.mem_cons_of_mem _ hp)) ?_
    rw [List.append_assoc, ← List.flatten_cons, h]

/-! ## The verdict -/

def Passes (result : Except ScannerError ScanResult) : Prop := ∃ scan, result = .ok scan ∧ scan.isClean = true

theorem verdict_passes (response : Bytes) : Passes (verdict response) ↔ response = okReply := by
  unfold Passes verdict
  constructor
  · rintro ⟨scan, hscan, hclean⟩
    split at hscan
    · assumption
    · split at hscan
      · cases hscan
        cases hclean
      · split at hscan
        · cases hscan
          cases hclean
        · cases hscan
  · rintro rfl
    exact ⟨_, if_pos rfl, rfl⟩

/-- With the daemon, a file passes if the heuristics find nothing and the reply that is read is the one that says so. -/
theorem scanUpload_passes (connection : Connection) (fileData : Bytes) :
    Passes (scanUpload true connection fileData) ↔
      (heuristicScan fileData).isClean = true ∧ Passes (clamavScan connection fileData) := by
  by_cases hclean : (heuristicScan fileData).isClean = true
  · have hscan : scanUpload true connection fileData = clamavScan connection fileData := by
      unfold scanUpload
      exact if_neg (by rw [hclean]; decide)
    rw [hscan, hclean]
    exact (and_iff_right rfl).symm
  · have hscan : scanUpload true connection fileData = .ok (heuristicScan fileData) := by
      unfold scanUpload
      exact if_pos (by rw [Bool.eq_false_iff.2 hclean]; rfl)
    rw [hscan]
    constructor
    · rintro ⟨scan, hsame, hpass⟩
      cases hsame
      exact absurd hpass hclean
    · exact fun h => absurd h.1 hclean

theorem clamavScan_reply {connection : Connection} {fileData response : Bytes} (hconnects : connection.refused = false)
    (hsends : connection.brokenAfter = none) (h : receive [] connection.arrivals = .ok response) :
    clamavScan connection fileData = verdict response := by
  unfold clamavScan
  rw [hconnects, hsends, h]
  rfl

theorem clamavScan_passes {connection : Connection} {fileData : Bytes} (h : Passes (clamavScan connection fileData)) :
    receive [] connection.arrivals = .ok okReply := by
  obtain ⟨scan, hscan, hclean⟩ := h
  unfold clamavScan at hscan
  cases hrefused : connection.refused with
  | true =>
    rw [hrefused] at hscan
    cases hscan
  | false =>
    cases hbroken : connection.brokenAfter.any (· < (transmission fileData).length) with
    | true =>
      rw [hrefused, hbroken] at hscan
      cases hscan
    | false =>
      rw [hrefused, hbroken] at hscan
      cases hreply : receive [] connection.arrivals with
      | error e =>
        rw [hreply] at hscan
        cases hscan
      | ok response =>
        rw [hreply] at hscan
        rw [(verdict_passes response).1 ⟨scan, hscan, hclean⟩]

/-- **Screening fails closed.** What is sent after the command reads as the file. A reply of one line gives one result,
however it is cut, and the file passes if and only if the heuristics find nothing and the line is `stream: OK`. And on
any connection at all a file passes only if the bytes received begin with that line. -/
theorem scanUpload_failsClosed :
    (∀ fileData, (transmission fileData).head? = some instreamCommand ∧
      readInstream ((transmission fileData).drop 1).flatten = some fileData) ∧
    (∀ fileData line : Bytes, 0 ∉ line → line.length + 1 ≤ 4096 →
      ∀ (parts : List Bytes) (more : List Arrival), (∀ part ∈ parts, part ≠ []) → parts.flatten = line ++ [0] →
        scanUpload true { arrivals := parts.map .bytes ++ more } fileData =
            scanUpload true { arrivals := [.bytes (line ++ [0])] } fileData ∧
          (Passes (scanUpload true { arrivals := parts.map .bytes ++ more } fileData) ↔
            (heuristicScan fileData).isClean = true ∧ line = ascii "stream: OK")) ∧
    ∀ (connection : Connection) (fileData : Bytes), Passes (scanUpload true connection fileData) →
      ascii "stream: OK" ++ [0] <+: received connection.arrivals := by
  refine ⟨fun fileData => ⟨rfl, readInstream_transmission fileData⟩, ?_, ?_⟩
  · intro fileData line hline hlength parts more hparts hflatten
    have hscan : ∀ (parts : List Bytes) (more : List Arrival), (∀ part ∈ parts, part ≠ []) →
        parts.flatten = line ++ [0] →
        clamavScan { arrivals := parts.map .bytes ++ more } fileData = verdict (line ++ [0]) :=
      fun parts more hparts hflatten =>
        clamavScan_reply rfl rfl (receive_fragments line hline (by omega) [] parts hparts hflatten more)
    have hwhole := hscan [line ++ [0]] [] (by simp) (by simp)
    have hcut := hscan parts more hparts hflatten
    constructor
    · unfold scanUpload
      rw [hcut, ← hwhole]
      rfl
    · rw [scanUpload_passes, hcut, verdict_passes]
      refine and_congr_right fun _ => ?_
      rw [show okReply = ascii "stream: OK" ++ [0] by decide]
      exact List.append_left_inj [0]
  · intro connection fileData h
    have hreply := receive_prefix (clamavScan_passes ((scanUpload_passes connection fileData).1 h).2)
    rw [List.nil_append] at hreply
    rwa [show okReply = ascii "stream: OK" ++ [0] by decide] at hreply

/-- A reply that comes in two parts. -/
theorem scanUpload_failsClosed_example :
    let connection : Connection := { arrivals := [ascii "stream: ", ascii "OK\x00"].map .bytes ++ [.failed] }
    Passes (scanUpload true connection [1, 2, 3]) ∧ ascii "stream: OK" ++ [0] <+: received connection.arrivals := by
  intro connection
  have hpasses : Passes (scanUpload true connection [1, 2, 3]) :=
    ((scanUpload_failsClosed.2.1 [1, 2, 3] (ascii "stream: OK") (by decide) (by decide)
      [ascii "stream: ", ascii "OK\x00"] [.failed] (by decide) (by decide)).2).2 ⟨by decide, rfl⟩
  exact ⟨hpasses, scanUpload_failsClosed.2.2 connection [1, 2, 3] hpasses⟩

end Muefs
