import Mathlib.Tactic
import Lgt8.Http.Answers

/-!
# Are the buffers of a request given back?

A buffer handed to `http_recv`, which always returns `ERR_OK`, belongs to the server.  It frees the
buffers of a request once the request is answered or refused.  Nothing frees the buffers that wait in
`hs->req` when the state is freed before that, nor a chunk that comes while a file is being sent.

* `possessed` — a run beside the buffers the server came to own.
* **`http_recovered_iff`** — in every state of a run the buffers received are the ones freed and the
  ones that wait, each once, exactly if no request is abandoned and no chunk comes behind one.
-/

namespace Lgt8.Http.Conn

open Library

variable {c d e : Conn} {hs hs' : HttpState} {f : FsFile} {root : List FsdataFile} {p : List Pbuf}
  {as bs : List ℕ} {l : Label}

/-- The buffers a callback makes the server own. -/
def handed (c : Conn) : Label → List Pbuf
  | .recv p _ => if c.gone = true ∨ c.hs = none then [] else p
  | _ => []

/-- A run beside the buffers the server came to own. -/
def possessed (root : List FsdataFile) : Conn × List ℕ → Label → Except Fault (Conn × List ℕ) :=
  observed (step root) fun c l as => as ++ Pbuf.addrs (handed c l)

/-- The buffers of a request that is not complete. -/
def waiting (c : Conn) : List Pbuf :=
  match c.hs with
  | some hs => hs.req
  | none => []

/-- **Nothing is leaked and nothing freed twice.** -/
def Recovered (q : Conn × List ℕ) : Prop := q.2.Perm (q.1.freed ++ Pbuf.addrs (waiting q.1))

/-- The callback abandons nothing: no request waits when it frees the state, and no file is being sent
when it brings a chunk. -/
def Spares (c : Conn) (l : Label) : Prop :=
  ∀ hs, c.hs = some hs → (Cuts hs l ∨ l = .sent → hs.req = []) ∧
    ∀ p, l = .recv p .ok → p = [] ∨ hs.handle = none

/-- lwIP delivers buffers with one reference to each. -/
def Sole : Label → Prop
  | .recv p _ => ∀ q ∈ p, q.ref = 1
  | _ => True

/-! ## One callback -/

lemma waiting_of_some (hc : c.hs = some hs) : waiting c = hs.req := by rw [waiting, hc]

lemma waiting_of_none (hc : c.hs = none) : waiting c = [] := by rw [waiting, hc]

lemma handed_recv (ho : Open c hs) (p : List Pbuf) (err : Err) : handed c (.recv p err) = p :=
  if_neg (by rw [ho.gone, ho.conn]; simp)

/-- `http_send` frees no buffer. -/
lemma Sends.freed_eq (h : Sends hs d e) : e.freed = d.freed := by
  cases h with
  | more hk hd =>
      obtain ⟨_, _, _, rfl⟩ := hd
      rfl
  | all hd he =>
      obtain ⟨_, _, _, rfl⟩ := hd
      exact he.freed

/-- Behind `http_send` the request waits as before, or the state is freed. -/
lemma Sends.waiting_eq (h : Sends hs d e) : waiting e = if e.hs = none then [] else hs.req := by
  cases h with
  | more hk hd => rw [waiting_of_some rfl, if_neg (by simp)]; rfl
  | all hd he => rw [waiting_of_none he.hs, if_pos he.hs]

/-- What a callback does with the buffers: it frees some and lets the rest wait, and if it abandons
some these are fewer than there were. -/
def Settles (c : Conn) (hs : HttpState) (l : Label) (d : Conn) : Prop :=
  ∃ xs, d.freed = c.freed ++ Pbuf.addrs xs ∧
    (Spares c l ∧ xs ++ waiting d = hs.req ++ handed c l ∨
      ¬ Spares c l ∧ (xs ++ waiting d).length < (hs.req ++ handed c l).length)

lemma spares_iff (hc : c.hs = some hs) : Spares c l ↔ (Cuts hs l ∨ l = .sent → hs.req = []) ∧
    ∀ p, l = .recv p .ok → p = [] ∨ hs.handle = none := by
  refine ⟨fun h => h hs hc, fun h hs' hc' => ?_⟩
  obtain rfl := Option.some.inj (hc.symm.trans hc')
  exact h

/-- The state is not freed, or no request waits, and no file is being sent. -/
lemma Settles.of_eq (xs : List Pbuf) (hc : c.hs = some hs) (hf : d.freed = c.freed ++ Pbuf.addrs xs)
    (hreq : Cuts hs l ∨ l = .sent → hs.req = [])
    (hhandle : ∀ p, l = .recv p .ok → p = [] ∨ hs.handle = none)
    (heq : xs ++ waiting d = hs.req ++ handed c l) : Settles c hs l d :=
  ⟨xs, hf, Or.inl ⟨(spares_iff hc).mpr ⟨hreq, hhandle⟩, heq⟩⟩

/-- The state is freed, and the new buffers. -/
lemma Settles.of_ended (hc : c.hs = some hs) (hd : d.hs = none)
    (hf : d.freed = c.freed ++ Pbuf.addrs (handed c l)) (hcut : Cuts hs l ∨ l = .sent)
    (hhandle : ∀ p, l = .recv p .ok → p = [] ∨ hs.handle = none) : Settles c hs l d := by
  refine ⟨handed c l, hf, ?_⟩
  rw [spares_iff hc, waiting_of_none hd, List.append_nil]
  by_cases hreq : hs.req = []
  · exact Or.inl ⟨⟨fun _ => hreq, hhandle⟩, by rw [hreq, List.nil_append]⟩
  · refine Or.inr ⟨fun h => hreq (h.1 hcut), ?_⟩
    have hpos := List.length_pos_iff.mpr hreq
    rw [List.length_append]
    omega

lemma free_sole {p' : List Pbuf} (h : ∀ q ∈ p, q.ref = 1) (h' : ∀ q ∈ p', q.ref = 1) :
    (Pbuf.free (p ++ p')).1 = Pbuf.addrs (p ++ p') := by
  rw [Pbuf.free_owned fun q hq => (List.mem_append.mp hq).elim (h q) (h' q)]

lemma chunk_spares (hp : p ≠ []) :
    Cuts hs (.recv p .ok) ∨ Label.recv p .ok = .sent → hs.req = [] := by
  rintro ((h | h) | h)
  · exact absurd rfl h
  · exact absurd h hp
  · cases h

/-- **A callback settles its buffers.** -/
lemma Stepped.settles (ho : Open c hs) (hsole : ∀ q ∈ hs.req, q.ref = 1) (hl : Sole l)
    (h : Stepped root c hs l d) : Settles c hs l d := by
  have hserving : ∀ f, Serves hs f → hs.req = [] := fun f hf => by
    rcases ho.state with hw | ⟨f', -, hreq⟩
    · exact nomatch hf.handle.symm.trans hw.handle
    · exact hreq
  cases h with
  | button hd =>
      refine .of_eq [] ho.conn hd.freed_eq (by rintro (⟨⟨⟩⟩ | h); cases h) nofun ?_
      rw [waiting_of_some hd.conn_eq]
      exact (List.append_nil _).symm
  | failed hhs hgone hw hf =>
      exact .of_ended ho.conn hhs (by rw [hf]; exact (List.append_nil _).symm) (Or.inl trivial) nofun
  | held hw hp hr hd =>
      refine .of_eq [] ho.conn hd.freed_eq (chunk_spares hp) (fun _ _ => Or.inr hw.handle) ?_
      rw [waiting_of_some hd.conn_eq, handed_recv ho, List.nil_append]
      rfl
  | rejected hw hp hr hd he =>
      next p _ _ =>
      refine .of_eq (hs.req ++ p) ho.conn ?_ (chunk_spares hp) (fun _ _ => Or.inr hw.handle) ?_
      · rw [he.freed, hd.freed_eq, free_sole hsole hl]
      · rw [waiting_of_none he.hs, handed_recv ho, List.append_nil]
  | answered hw hp hr hreq hretries hstate hd he =>
      next p _ _ =>
      refine .of_eq (hs.req ++ p) ho.conn ?_ (chunk_spares hp) (fun _ _ => Or.inr hw.handle) ?_
      · rw [he.freed_eq, hd.freed_eq, free_sole hsole hl]
      · rw [he.waiting_eq, hreq, ite_self, handed_recv ho, List.append_nil]
  | ignored f hserves hp hd =>
      next p =>
      refine ⟨[], hd.freed_eq, Or.inr ⟨fun h => ?_, ?_⟩⟩
      · rcases ((spares_iff ho.conn).mp h).2 p rfl with hnil | hnone
        · exact hp hnil
        · exact nomatch hserves.handle.symm.trans hnone
      · rw [waiting_of_some hd.conn_eq, handed_recv ho, hserving f hserves]
        exact List.length_pos_iff.mpr hp
  | dropped hp hd he =>
      next p err _ =>
      refine .of_ended ho.conn he.hs ?_ (Or.inl hp) fun p' hp' => ?_
      · rw [he.freed, hd.freed_eq, handed_recv ho, Pbuf.free_owned hl]
      · obtain ⟨rfl, rfl⟩ := Label.recv.inj hp'
        exact Or.inl (hp.resolve_left (by simp))
  | sent hd he =>
      have hfreed : d.freed = c.freed := by rw [he.freed_eq, hd.freed_eq, List.append_nil]
      rcases ho.state with hw | ⟨f, hserves, hreq⟩
      · exact .of_ended ho.conn (he.ended (hw.retry 0)) (by rw [hfreed]; exact (List.append_nil _).symm)
          (Or.inr rfl) nofun
      · refine .of_eq [] ho.conn (by rw [hfreed]; exact (List.append_nil _).symm)
          (fun _ => hreq) nofun ?_
        rw [he.waiting_eq]
        simp only [hreq, ite_self]
        rfl
  | expired hr hd he =>
      exact .of_ended ho.conn he.hs (by rw [he.freed, hd.freed_eq]; rfl) (Or.inl hr) nofun
  | waited hr hw hd =>
      refine .of_eq [] ho.conn hd.freed_eq ?_ nofun ?_
      · rintro (h | h)
        · exact absurd h hr
        · cases h
      · rw [waiting_of_some hd.conn_eq]
        exact (List.append_nil _).symm
  | resumed hr f hserves hd he =>
      have hreq := hserving f hserves
      refine .of_eq [] ho.conn (by rw [he.freed_eq, hd.freed_eq]; rfl) (fun _ => hreq) nofun ?_
      rw [he.waiting_eq]
      simp only [hreq, ite_self]
      rfl

/-! ## Whole runs -/

/-- The connection is open or has ended, and its buffers are accounted for. -/
structure Holds (q : Conn × List ℕ) : Prop where
  state : q.1.hs = none ∨ ∃ hs, Open q.1 hs
  sole : ∀ r ∈ waiting q.1, r.ref = 1
  recovered : Recovered q

lemma handed_of_ended (hc : c.hs = none) (l : Label) : handed c l = [] := by
  cases l with
  | recv p err => exact if_pos (Or.inr hc)
  | _ => rfl

lemma handed_sole (hl : Sole l) : ∀ q ∈ handed c l, q.ref = 1 := by
  cases l with
  | recv p err =>
      rw [handed]
      split
      · nofun
      · exact hl
  | _ => nofun

/-- **A callback abandons nothing** exactly if all buffers are accounted for behind it. -/
lemma possessed_holds (hroot : Included root) {q : Conn × List ℕ} (hq : Holds q) (hl : Sole l) :
    ∃ r, possessed root q l = .ok r ∧ (Spares q.1 l → Holds r) ∧ (¬ Spares q.1 l → ¬ Recovered r) := by
  obtain ⟨c, as⟩ := q
  obtain ⟨hstate, hsole, hrec⟩ := hq
  dsimp only [Recovered] at hstate hsole hrec ⊢
  rcases hstate with hnone | ⟨hs, ho⟩
  · obtain ⟨d, hd, hdnone, -, hfreed⟩ := step_of_ended root hnone l
    have hr : possessed root (c, as) l = .ok (d, as ++ Pbuf.addrs (handed c l)) :=
      observed_ok.mpr ⟨hd, rfl⟩
    refine ⟨_, hr, fun _ => ⟨Or.inl hdnone, ?_, ?_⟩, fun h => absurd (fun hs hs' => ?_) h⟩
    · dsimp only
      rw [waiting_of_none hdnone]
      nofun
    · rw [waiting_of_none hnone] at hrec
      dsimp only [Recovered]
      rw [handed_of_ended hnone, waiting_of_none hdnone, hfreed, Pbuf.addrs_nil, List.append_nil]
      exact hrec
    · exact nomatch hnone.symm.trans hs'
  · rw [waiting_of_some ho.conn] at hsole hrec
    obtain ⟨d, hd, hstepped⟩ := step_stepped hroot ho l
    obtain ⟨xs, hfreed, hsettles⟩ := hstepped.settles ho hsole hl
    have hr : possessed root (c, as) l = .ok (d, as ++ Pbuf.addrs (handed c l)) :=
      observed_ok.mpr ⟨hd, rfl⟩
    have hall : (as ++ Pbuf.addrs (handed c l)).Perm
        (c.freed ++ Pbuf.addrs (hs.req ++ handed c l)) := by
      rw [Pbuf.addrs, Pbuf.addrs, List.map_append, ← List.append_assoc]
      exact hrec.append_right _
    have hnow : d.freed ++ Pbuf.addrs (waiting d) = c.freed ++ Pbuf.addrs (xs ++ waiting d) := by
      rw [hfreed, Pbuf.addrs, Pbuf.addrs, Pbuf.addrs, List.map_append, List.append_assoc]
    refine ⟨_, hr, fun hC => ?_, fun hC hrec' => ?_⟩
    · obtain ⟨-, heq⟩ := hsettles.resolve_right fun h => h.1 hC
      refine ⟨(hstepped.patience ho).imp_right (Exists.imp fun _ => And.left), fun r hr' => ?_, ?_⟩
      · have hmem : r ∈ hs.req ++ handed c l := heq ▸ List.mem_append_right xs hr'
        rcases List.mem_append.mp hmem with hreq | hhanded
        · exact hsole r hreq
        · exact handed_sole hl r hhanded
      · dsimp only [Recovered]
        rw [hnow, heq]
        exact hall
    · obtain ⟨-, hlt⟩ := hsettles.resolve_left fun h => hC h.1
      have hlen := (hall.symm.trans hrec').length_eq
      dsimp only at hlen
      rw [hnow, List.length_append, List.length_append, Pbuf.addrs, Pbuf.addrs, List.length_map,
        List.length_map] at hlen
      omega

/-- **No received buffer is leaked or freed twice**, in any state of a run, exactly if no callback of
the run abandons one: none frees the state while a request waits, and no chunk comes while a file is
being sent. -/
theorem http_recovered_iff (hroot : Included root) (c : Conn) (hc : c.freed = []) {ls : List Label}
    (hls : ∀ l ∈ ls, Sole l) :
    AllStates (possessed root) Recovered (httpAccept c, []) ls ↔
      AllSteps (step root) Spares (httpAccept c) ls := by
  have hstart : Holds (httpAccept c, []) := by
    refine ⟨Or.inr ⟨_, httpAccept_open c⟩, nofun, ?_⟩
    dsimp only [Recovered]
    rw [show (httpAccept c).freed = [] from hc]
    exact .refl _
  refine (allStates_iff_allSteps_of (I := Holds) (L := fun _ => Sole) (C := fun q => Spares q.1)
    (fun _ hq => hq.recovered) ?_ ?_ (allSteps_of_forall_mem hls) hstart).trans allSteps_observed
  · intro q l r hl hq hC hr
    obtain ⟨r', hr', hkeep, -⟩ := possessed_holds hroot hq hl
    obtain rfl := Except.ok.inj (hr.symm.trans hr')
    exact hkeep hC
  · intro q l hl hq hC
    obtain ⟨r, hr, -, hbreak⟩ := possessed_holds hroot hq hl
    exact ⟨r, hr, hbreak hC⟩

/-- Nothing waits and nothing is sent on a new connection. -/
lemma spares_httpAccept (c : Conn) (l : Label) : Spares (httpAccept c) l := by
  intro hs hhs
  obtain rfl := Option.some.inj hhs
  exact ⟨fun _ => rfl, fun _ _ => Or.inr rfl⟩

/-- A connection that sends a few bytes at a time, a request on it, and a chunk behind that. -/
def slow : Conn := { fresh with mss := 1 }

def getLed : Label := .recv [.ofBytes (ascii "GET /toggleredled.cgi \r\n\r\n")] .ok

def behind : Label := .recv [{ Pbuf.ofBytes (ascii "GET") with addr := 4 }] .ok

/-- The request alone is freed; the chunk behind it, which comes while the file is being sent, is
not. -/
theorem http_recovered_iff_pipelined :
    AllStates (possessed [toggleredledCgi]) Recovered (httpAccept slow, []) [getLed] ∧
      ¬ AllStates (possessed [toggleredledCgi]) Recovered (httpAccept slow, []) [getLed, behind] := by
  have hroot : Included [toggleredledCgi] := fun f hf => by rw [List.mem_singleton.mp hf]; rfl
  have hsole : ∀ l ∈ [getLed, behind], Sole l := by simp [getLed, behind, Sole, Pbuf.ofBytes]
  constructor
  · refine (http_recovered_iff hroot slow rfl fun l hl => hsole l ?_).mpr
      ⟨spares_httpAccept slow _, fun _ _ => trivial⟩
    rw [List.mem_singleton.mp hl]
    exact List.mem_cons_self ..
  · rw [http_recovered_iff hroot slow rfl hsole]
    rintro ⟨-, hspares⟩
    have hsending : (step [toggleredledCgi] (httpAccept slow) getLed).map
        (fun c => c.hs.map fun hs => hs.handle.isSome) = .ok (some true) := by decide +kernel
    obtain ⟨c, hc, hhs⟩ := ok_of_map hsending
    obtain ⟨hs, hhs, hsome⟩ := Option.map_eq_some_iff.mp hhs.symm
    rcases ((hspares c hc).1 hs hhs).2 _ rfl with hnil | hnone
    · cases hnil
    · rw [hnone] at hsome
      cases hsome

end Lgt8.Http.Conn
