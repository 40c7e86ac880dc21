import Mathlib.Tactic
import Mathlib.Data.List.TakeWhile
import Lgt8.Library.Search
import Lgt8.Http.Model

/-!
# What a request says

`strnstr` walks over memory that need not end where the request does.  It finds what a search of the
bytes before the first zero finds, so that what a request says depends on its bytes alone.

* **`strnstr_eq_search`** — the loop against the search of a list.
* `verdict` — what the bytes of a request say; **`parseLine_eq_verdict`** — the memory behind them
  does not matter.
* **`verdict_request`**, `verdict_shortRequest` — a request of either version says its URI.
* **`verdict_part`** — the part of a request that has come so far says nothing yet.
-/

namespace Lgt8.Http

open Library

variable {m : Memory} {token bs : List UInt8} {b p n last : ℕ}

/-- The bytes before the first zero. -/
def cText (bs : List UInt8) : List UInt8 := bs.takeWhile (· ≠ 0)

lemma cText_isPrefix (bs : List UInt8) : cText bs <+: bs := List.takeWhile_prefix _

/-- A piece without zeros begins a text exactly if it begins the bytes. -/
lemma prefix_cText_iff (hz : 0 ∉ token) : token <+: cText bs ↔ token <+: bs := by
  refine ⟨fun h => h.trans (cText_isPrefix bs), ?_⟩
  rintro ⟨post, rfl⟩
  rw [cText, List.takeWhile_append_of_pos fun a ha => by simpa using ne_of_mem_of_not_mem ha hz]
  exact List.prefix_append _ _

lemma load_prefix_iff (hn : token.length ≤ n) :
    token <+: m.load p n ↔ m.load p token.length = token := by
  have htake : (m.load p n).take token.length = m.load p token.length := by
    rw [Memory.load, ← List.map_take, List.take_range, min_eq_left hn, Memory.load]
  rw [List.prefix_iff_eq_take, htake, eq_comm]

lemma strnstrLoop_eq (hz : 0 ∉ token) (hne : token ≠ []) (hp : p ≤ last) (hn : last - p < n) :
    strnstrLoop m token last n p =
      (search token (cText (m.load p (last - p)))).map (p + ·) := by
  have hlen : 0 < token.length := List.length_pos_of_ne_nil hne
  induction n generalizing p with
  | zero => omega
  | succ n ih =>
      rw [strnstrLoop]
      by_cases hend : p = last
      · rw [if_neg (by omega), hend, Nat.sub_self]
        simp [Memory.load, cText, search, hne]
      · have hsplit : m.load p (last - p) = m p :: m.load (p + 1) (last - (p + 1)) := by
          rw [show last - p = last - (p + 1) + 1 by omega, Memory.load_cons]
        by_cases hzero : m p = 0
        · rw [if_neg fun hc => hc.1 hzero, hsplit]
          simp [cText, hzero, search, hne]
        · have htext : cText (m.load p (last - p)) =
              m p :: cText (m.load (p + 1) (last - (p + 1))) := by
            rw [hsplit, cText, List.takeWhile_cons_of_pos (by simpa using hzero), cText]
          by_cases hroom : p + token.length ≤ last
          · have hhere : token <+: m p :: cText (m.load (p + 1) (last - (p + 1))) ↔
                m.load p token.length = token := by
              rw [← htext, prefix_cText_iff hz, load_prefix_iff (by omega)]
            rw [if_pos ⟨hzero, hroom⟩, htext, search]
            by_cases hmatch : m.load p token.length = token
            · rw [if_pos hmatch, if_pos (hhere.mpr hmatch)]
              rfl
            · rw [if_neg hmatch, if_neg fun hc => hmatch (hhere.mp hc), ih (by omega) (by omega),
                Option.map_map]
              congr 1
              funext k
              show p + 1 + k = p + (k + 1)
              omega
          · rw [if_neg fun hc => hroom hc.2, search_eq_none_iff.mpr]
            · rfl
            · intro hin
              have hle := hin.length_le.trans (cText_isPrefix _).length_le
              rw [Memory.length_load] at hle
              omega

/-- **`strnstr` searches the text** that begins at `buffer`. -/
theorem strnstr_eq_search (hz : 0 ∉ token) (hne : token ≠ []) :
    strnstr m b token n = (search token (cText (m.load b n))).map (b + ·) := by
  rw [strnstr, strnstrLoop_eq hz hne (Nat.le_add_right _ _) (by omega), Nat.add_sub_cancel_left]

/-! ## The bytes alone -/

/-- What the bytes of a request say. -/
def verdict (bs : List UInt8) : Line :=
  if 7 ≤ bs.length ∧ crlf <:+: cText bs then
    if bs.take 4 = ascii "GET " then
      if crlf ++ crlf <:+: cText bs then
        match search (ascii " ") (cText (bs.drop 4)) with
        | some k => .get ((bs.drop 4).take k) false
        | none =>
            match search crlf (cText (bs.drop 4)) with
            | some k => .get ((bs.drop 4).take k) true
            | none => .incomplete
      else .incomplete
    else .unsupported
  else .incomplete

lemma strnstr_ne_none_iff (hz : 0 ∉ token) (hne : token ≠ []) :
    strnstr m b token n ≠ none ↔ token <:+: cText (m.load b n) := by
  rw [strnstr_eq_search hz hne, ← search_isSome_iff, ← Option.isSome_iff_ne_none, Option.isSome_map]

lemma load_drop : (m.load 0 n).drop p = m.load p (n - p) := by
  refine List.ext_getElem (by simp) fun i hi hi' => ?_
  simp [Memory.load]

lemma load_take (h : p ≤ n) : (m.load b n).take p = m.load b p := by
  rw [Memory.load, ← List.map_take, List.take_range, min_eq_left h, Memory.load]

/-- What `strnstr` passes over has no zeros. -/
lemma takeWhile_of_search {k : ℕ} (h : search token (cText bs) = some k) :
    (bs.take k).takeWhile (· ≠ 0) = bs.take k := by
  have hle := search_le h
  have hpref : bs.take k <+: cText bs := by
    refine List.prefix_of_prefix_length_le (List.take_prefix _ _) (cText_isPrefix bs) ?_
    rw [List.length_take]
    omega
  rw [List.takeWhile_eq_self_iff]
  intro a ha
  have hmem : a ∈ bs.takeWhile (· ≠ 0) := hpref.subset ha
  exact List.mem_takeWhile_imp (p := fun x => decide (x ≠ 0)) hmem

lemma load_of_search {k : ℕ} (h : search token (cText (m.load p n)) = some k) :
    (m.load p (p + k - p)).takeWhile (· ≠ 0) = (m.load p n).take k := by
  have hle := (search_le h).trans (cText_isPrefix _).length_le
  rw [Memory.length_load] at hle
  rw [Nat.add_sub_cancel_left, ← takeWhile_of_search h, load_take (by omega)]

/-- **The memory behind a request does not matter.** -/
theorem parseLine_eq_verdict (m : Memory) (n : ℕ) : parseLine m n = verdict (m.load 0 n) := by
  have hcrlf : 0 ∉ crlf ∧ crlf ≠ [] := by decide
  have hcrlf2 : 0 ∉ crlf ++ crlf ∧ crlf ++ crlf ≠ [] := by decide
  have hsp : 0 ∉ ascii " " ∧ ascii " " ≠ [] := by decide
  rw [parseLine, verdict, Memory.length_load]
  by_cases hlen : 7 ≤ n
  · rw [if_pos hlen]
    by_cases hline : crlf <:+: cText (m.load 0 n)
    · rw [if_pos ((strnstr_ne_none_iff hcrlf.1 hcrlf.2).mpr hline), if_pos (And.intro hlen hline),
        load_take (by omega), load_drop]
      by_cases hget : m.load 0 4 = ascii "GET "
      · rw [if_pos hget, if_pos hget]
        dsimp only
        rw [strnstr_eq_search hsp.1 hsp.2, strnstr_eq_search hcrlf.1 hcrlf.2]
        by_cases hend : crlf ++ crlf <:+: cText (m.load 0 n)
        · simp only [if_pos ((strnstr_ne_none_iff hcrlf2.1 hcrlf2.2).mpr hend), if_pos hend]
          cases hsearch : search (ascii " ") (cText (m.load 4 (n - 4))) with
          | some k => exact congrArg (Line.get · false) (load_of_search hsearch)
          | none =>
              dsimp only [Option.map_none]
              cases hsearch' : search crlf (cText (m.load 4 (n - 4))) with
              | some k => exact congrArg (Line.get · true) (load_of_search hsearch')
              | none => rfl
        · simp only [if_neg fun hc => hend ((strnstr_ne_none_iff hcrlf2.1 hcrlf2.2).mp hc),
            if_neg hend]
          split <;> rfl
      · rw [if_neg hget, if_neg hget]
    · rw [if_neg fun hc => hline ((strnstr_ne_none_iff hcrlf.1 hcrlf.2).mp hc),
        if_neg fun hc => hline hc.2]
  · rw [if_neg hlen, if_neg fun hc => hlen hc.1]

/-! ## Requests -/

variable {uri rest whole part : List UInt8}

/-- A request with a version in its first line: `GET`, the URI, and what is behind. -/
def request (uri rest : List UInt8) : List UInt8 := ascii "GET " ++ uri ++ ascii " " ++ rest

/-- A request without: the URI ends where the line does. -/
def shortRequest (uri : List UInt8) : List UInt8 := ascii "GET " ++ uri ++ (crlf ++ crlf)

lemma cText_append (hz : 0 ∉ bs) : cText (bs ++ rest) = bs ++ cText rest := by
  rw [cText, List.takeWhile_append_of_pos fun a ha => by simpa using ne_of_mem_of_not_mem ha hz,
    cText]

lemma cText_of_no_zero (hz : 0 ∉ bs) : cText bs = bs := by
  have h : cText (bs ++ []) = bs ++ cText [] := cText_append hz
  simpa [cText] using h

/-- What an ended request has in it. -/
lemma verdict_of_get (hget : ascii "GET " <+: bs) (hend : crlf ++ crlf <:+: cText bs) :
    verdict bs = match search (ascii " ") (cText (bs.drop 4)) with
      | some k => .get ((bs.drop 4).take k) false
      | none =>
          match search crlf (cText (bs.drop 4)) with
          | some k => .get ((bs.drop 4).take k) true
          | none => .incomplete := by
  obtain ⟨rest, rfl⟩ := hget
  have hline : crlf <:+: cText (ascii "GET " ++ rest) :=
    (List.prefix_append crlf crlf).isInfix.trans hend
  have hlen : 7 ≤ (ascii "GET " ++ rest).length := by
    obtain ⟨pre, post, hpre⟩ := hend.trans (cText_isPrefix _).isInfix
    have hbyte : (ascii "GET " ++ rest)[pre.length]? = some 13 := by
      rw [← hpre, List.append_assoc, List.getElem?_append_right le_rfl, Nat.sub_self]
      rfl
    have hfour : 4 ≤ pre.length := by
      by_contra hlt
      rw [List.getElem?_append_left (by simpa [ascii] using hlt)] at hbyte
      have hget : ∀ i < 4, (ascii "GET ")[i]? ≠ some 13 := by decide
      exact hget _ (by omega) hbyte
    rw [← hpre]
    simp only [List.length_append, crlf, List.length_cons, List.length_nil]
    omega
  have htake : (ascii "GET " ++ rest).take 4 = ascii "GET " := List.take_left' rfl
  rw [verdict, if_pos (And.intro hlen hline), if_pos htake, if_pos hend]

/-- **A request says its URI.** -/
theorem verdict_request (huri : 32 ∉ uri ∧ 0 ∉ uri)
    (hend : crlf ++ crlf <:+: cText (request uri rest)) :
    verdict (request uri rest) = .get uri false := by
  have hdrop : (request uri rest).drop 4 = uri ++ 32 :: rest := by
    rw [request, List.append_assoc, List.append_assoc]
    rfl
  have hget : ascii "GET " <+: request uri rest := by
    rw [request, List.append_assoc, List.append_assoc]
    exact List.prefix_append _ _
  have htext : cText (uri ++ 32 :: rest) = uri ++ 32 :: cText rest := by
    rw [cText_append huri.2]
    rfl
  have hfound : search (ascii " ") (cText (uri ++ 32 :: rest)) = some uri.length := by
    rw [htext]
    have hsearch : search [32] (uri ++ [32] ++ cText rest) = some uri.length :=
      search_of_not_mem huri.1
    rwa [List.append_assoc] at hsearch
  rw [verdict_of_get hget hend, hdrop, hfound]
  dsimp only
  rw [List.take_left]

/-- **So does a request of the older version.** -/
theorem verdict_shortRequest (huri : 32 ∉ uri ∧ 0 ∉ uri ∧ 13 ∉ uri) :
    verdict (shortRequest uri) = .get uri true := by
  have hdrop : (shortRequest uri).drop 4 = uri ++ (crlf ++ crlf) := by
    rw [shortRequest, List.append_assoc]
    rfl
  have hget : ascii "GET " <+: shortRequest uri := by
    rw [shortRequest, List.append_assoc]
    exact List.prefix_append _ _
  have hzero : 0 ∉ shortRequest uri := by
    simp only [shortRequest, List.mem_append, not_or]
    exact ⟨⟨by decide, huri.2.1⟩, by decide, by decide⟩
  have htext : cText (uri ++ (crlf ++ crlf)) = uri ++ (crlf ++ crlf) :=
    cText_of_no_zero (by simpa using ⟨huri.2.1, by decide⟩)
  have hnone : search (ascii " ") (uri ++ (crlf ++ crlf)) = none := by
    rw [search_eq_none_iff]
    intro hin
    have hmem : 32 ∈ uri ++ (crlf ++ crlf) := hin.subset (by decide : 32 ∈ ascii " ")
    rcases List.mem_append.mp hmem with h | h
    · exact huri.1 h
    · exact absurd h (by decide)
  have hfound : search crlf (uri ++ (crlf ++ crlf)) = some uri.length := by
    rw [← List.append_assoc]
    exact search_of_not_mem huri.2.2
  rw [verdict_of_get hget, hdrop, htext, hnone]
  · dsimp only
    rw [hfound]
    dsimp only
    rw [List.take_left]
  · rw [cText_of_no_zero hzero]
    exact (List.suffix_append _ _).isInfix

/-- **The part of a request that has come says nothing yet.** -/
theorem verdict_part (hget : ascii "GET " <+: whole) (hpart : part <+: whole)
    (hend : ¬ crlf ++ crlf <:+: part) : verdict part = .incomplete := by
  rw [verdict]
  split
  · next hline =>
      have htake : part.take 4 = ascii "GET " := by
        obtain ⟨post, rfl⟩ := hpart
        obtain ⟨rest, hrest⟩ := hget
        have h := congrArg (List.take 4) hrest
        rw [List.take_append_of_le_length (by omega : 4 ≤ part.length)] at h
        exact h.symm
      rw [if_pos htake, if_neg fun hin => hend (hin.trans (cText_isPrefix _).isInfix)]
  · rfl

end Lgt8.Http
