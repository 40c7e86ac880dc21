import Mathlib.Tactic
import Lgt8.Firmware.Telemetry
import Lgt8.Kernel.Mirror

/-!
# Polling the status

A client polls with `CALLBACK_REQ`.  With no answer waiting, `ethergate` overwrites the request: if
`status_updated` is set with the stream, a `CMD_STATUSUPDATE` of size 127, else with a
`CMD_STATUSKEEP` of size 0.  But nothing ever clears `status_updated`, and `initStatus` has set it.

* `Answered` — the reply a poll should get: the stream, if something changed since the last poll,
  and a size that reaches to its end.
* **`polls_answered_iff`** — the replies of a run are all as they should be exactly if at every poll
  something has changed and the stream has a NUL among its first 128 bytes.
* **`never_answered`** — with exact rationals in the slots it has none, so no poll is answered.
-/

namespace Lgt8.Kernel

open Library

variable {F : Type} [DoubleOps F]

/-! ## Stores and polls -/

/-- A store in one of the ten slots, a store in a flag, or a poll. -/
inductive Call (F : Type)
  | slot (i : Fin 10) (v : F)
  | flag (k : StFlags) (b : Bool)
  | poll (m : { m : AntaresMsg // m.cmd = Comands.callbackReq.code })

def call (s : KernelCtx F) : Call F → Except Fault (KernelCtx F)
  | .slot i v => .ok { s with world.status := s.world.status.storeMonitorSlot i v }
  | .flag k b => .ok (storeMonitorFlag k b s)
  | .poll m => .ok (ethergate m.val s).2

/-- Whether a stored value or flag has changed since the last poll, after one more call. -/
def noteChange (s : KernelCtx F) : Call F → Bool → Bool
  | .slot i v, changed => changed || !DoubleOps.eq (s.world.status.statusvals i) v
  | .flag k b, changed => changed || s.world.status.statusflags k.index != b
  | .poll _, _ => false

/-- The reply is the stream, with a size that reaches to its NUL, if something has changed; else it
is word that nothing has. -/
def Answered (changed : Bool) (st : Status F) (reply : AntaresMsg) : Prop :=
  if changed then
    reply.cmd = Comands.cmdStatusupdate.code ∧
      reply.data = (List.range 150).map st.statusStream ∧
      ∃ k ≤ reply.size.toNat, st.statusStream k = 0
  else reply.cmd = Comands.cmdStatuskeep.code ∧ reply.size = 0

/-- A poll is answered as it should be. -/
def PollAnswered (p : KernelCtx F × Bool) : Call F → Prop
  | .poll m => Answered p.2 p.1.world.status (ethergate m.val p.1).1
  | _ => True

/-- At a poll something has changed, and the stream has a NUL among its first 128 bytes. -/
def PollChanged (p : KernelCtx F × Bool) : Call F → Prop
  | .poll _ => p.2 = true ∧ ∃ k ≤ 127, p.1.world.status.statusStream k = 0
  | _ => True

/-! ## The reply -/

omit [DoubleOps F] in
lemma statusReply_updated {st : Status F} (h : st.statusUpdated = true) (m : AntaresMsg) :
    (statusReply st m).cmd = Comands.cmdStatusupdate.code ∧
      (statusReply st m).data = (List.range 150).map st.statusStream ∧
      (statusReply st m).size = 127 := by
  have h5 : 5 + [Comands.cmdStatusupdate.code].length ≤ 162 := by decide
  have h12 : 12 + ((List.range 150).map st.statusStream).length ≤ 162 := by
    rw [List.length_map, List.length_range]
  have h1 : 1 + [(127 : UInt8)].length ≤ 162 := by decide
  rw [statusReply, if_pos h]
  dsimp only
  refine ⟨?_, ?_, ?_⟩
  · rw [AntaresMsg.cmd, AntaresMsg.byte_poke _ h1, if_neg (by decide), AntaresMsg.byte_poke _ h12,
      if_neg (by omega), AntaresMsg.byte_poke _ h5, if_pos (by decide)]
    rfl
  · rw [AntaresMsg.data_eq]
    refine List.map_congr_left fun k hk => ?_
    have hk := List.mem_range.mp hk
    rw [AntaresMsg.byte_poke _ h1, if_neg (by simp; omega), AntaresMsg.byte_poke _ h12,
      if_pos (by simp; omega), Nat.add_sub_cancel_left, List.getD_eq_getElem?_getD,
      List.getElem?_map, List.getElem?_range hk]
    rfl
  · rw [AntaresMsg.size, AntaresMsg.byte_poke _ h1, if_pos (by decide)]
    rfl

omit [DoubleOps F] in
/-- **With `status_updated` set, a poll is answered exactly if something has changed and the stream
ends early enough.** -/
theorem poll_answered_iff {p : KernelCtx F × Bool} (hu : p.1.world.status.statusUpdated = true)
    (hout : p.1.obj.messageOut = []) (c : Call F) : PollAnswered p c ↔ PollChanged p c := by
  cases c with
  | slot i v => exact Iff.rfl
  | flag k b => exact Iff.rfl
  | poll m =>
      have hreply : (ethergate m.val p.1).1 = statusReply p.1.world.status m.val := by
        rw [ethergate, if_pos m.property, hout]
      obtain ⟨hcmd, hdata, hsize⟩ := statusReply_updated hu m.val
      rw [PollAnswered, PollChanged, hreply, Answered, hcmd, hsize]
      cases p.2 with
      | false =>
          simp only [Bool.false_eq_true, if_false, false_and, iff_false]
          rintro ⟨hkeep, -⟩
          exact absurd hkeep (by decide)
      | true =>
          simp only [if_true, true_and]
          exact ⟨fun h => h.2, fun h => ⟨hdata, h⟩⟩

/-! ## Runs -/

/-- What a run of calls starts from: the stream counts as changed, and no answer waits. -/
structure Polled (st : Status F) (p : KernelCtx F × Bool) : Prop where
  updated : p.1.world.status.statusUpdated = true
  messageOut : p.1.obj.messageOut = []
  stores : Status.Stores st p.1.world.status

omit [DoubleOps F] in
lemma ethergate_poll {s : KernelCtx F} (hout : s.obj.messageOut = [])
    (m : { m : AntaresMsg // m.cmd = Comands.callbackReq.code }) : (ethergate m.val s).2 = s := by
  rw [ethergate, if_pos m.property, hout]

lemma polled_step {st : Status F} {p q : KernelCtx F × Bool} {c : Call F} (h : Polled st p)
    (hq : observed call noteChange p c = .ok q) : Polled st q := by
  obtain ⟨hstep, -⟩ := observed_ok.mp hq
  cases c with
  | slot i v =>
      have heq := Except.ok.inj hstep
      have hstatus : q.1.world.status = p.1.world.status.storeMonitorSlot i v := by rw [← heq]
      have hout : q.1.obj.messageOut = p.1.obj.messageOut := by rw [← heq]
      exact ⟨hstatus ▸ Status.storeMonitorSlot_updated _ _ v h.updated, hout.trans h.messageOut,
        hstatus ▸ h.stores.slot i.isLt v⟩
  | flag k b =>
      have heq := Except.ok.inj hstep
      have hstatus : q.1.world.status = p.1.world.status.storeMonitorFlag k.index b := by
        rw [← heq]
        rfl
      have hout : q.1.obj.messageOut = p.1.obj.messageOut := by
        rw [← heq]
        rfl
      exact ⟨hstatus ▸ Status.storeMonitorFlag_updated _ _ b h.updated, hout.trans h.messageOut,
        hstatus ▸ h.stores.flag k.index_lt b⟩
  | poll m =>
      have heq : p.1 = q.1 := (ethergate_poll h.messageOut m).symm.trans (Except.ok.inj hstep)
      exact ⟨heq ▸ h.updated, heq ▸ h.messageOut, heq ▸ h.stores⟩

lemma boot_polled (raw : Kernel F) (w : World F) :
    Polled w.status.initStatus (boot raw w, false) := by
  obtain ⟨-, -, hstatus⟩ := boot_started raw w
  exact ⟨hstatus.updated (Status.initStatus_updated _), rfl, hstatus⟩

/-- **The polls of a run from the start are all answered as they should be precisely if at every
one of them something has changed and the stream has a NUL among its first 128 bytes.** -/
theorem polls_answered_iff (raw : Kernel F) (w : World F) (calls : List (Call F)) :
    AllSteps (observed call noteChange) PollAnswered (boot raw w, false) calls ↔
      AllSteps (observed call noteChange) PollChanged (boot raw w, false) calls :=
  allSteps_congr (I := Polled w.status.initStatus)
    (fun _ c h => poll_answered_iff h.updated h.messageOut c) (fun _ _ _ h hq => polled_step h hq)
    (boot_polled raw w)

/-! ## With finite values -/

/-- In front of the flags a started firmware's stream has text and commas. -/
lemma slot_bytes_ne_zero {st : Status ℚ} {i k : ℕ} (h : Status.SlotAt i st) (hk : k < 11) :
    st.statusStream (11 * i + k) ≠ 0 := by
  have hcell : st.statusStream (11 * i + k)
      = (sprintfE (st.statusvals i) ++ [44, 0]).getD k 0 := h k hk
  rw [hcell, sprintfE_eq, List.getD_eq_getElem?_getD]
  have hlen := le_length_signedText (decide (st.statusvals i < 0)) (st.statusvals i)
  by_cases hin : k < (signedText (decide (st.statusvals i < 0)) (st.statusvals i)).length
  · rw [List.getElem?_append_left hin, List.getElem?_eq_getElem hin, Option.getD_some]
    exact (mem_signedText (List.getElem_mem hin)).2
  · have hten : k - (signedText (decide (st.statusvals i < 0)) (st.statusvals i)).length = 0 := by
      omega
    rw [List.getElem?_append_right (not_lt.mp hin), hten]
    decide

/-- In exact arithmetic `initStatus` shows every slot. -/
lemma initStatus_shows (st : Status ℚ) {i : ℕ} (hi : i < 10) : Status.SlotAt i st.initStatus := by
  refine (Status.initStatus_slotAt (F := ℚ) (fun i _ => decide_eq_false (ne_of_lt ?_)) st hi).1
  have hpos : (0 : ℚ) ≤ (i : ℤ) * (80 : ℤ) + ((i / 3 : ℕ) : ℤ) := by positivity
  refine lt_of_lt_of_le ?_ hpos
  change ((-100000 : ℤ) : ℚ) < 0
  norm_num

/-- The stream of a started firmware has no NUL among its first 128 bytes. -/
lemma no_early_nul {st : Status ℚ} {p : KernelCtx ℚ × Bool} (h : Polled st.initStatus p) {k : ℕ}
    (hk : k ≤ 127) : p.1.world.status.statusStream k ≠ 0 := by
  rcases Nat.lt_or_ge k 110 with hslot | hflag
  · have hi : k / 11 < 10 := by omega
    have hshown := h.stores.slotAt hi (initStatus_shows st hi)
    rw [← Nat.div_add_mod k 11]
    exact slot_bytes_ne_zero hshown (Nat.mod_lt k (by decide))
  · obtain ⟨j, hj, hcase⟩ : ∃ j < 9, k = 110 + 2 * j ∨ k = 111 + 2 * j :=
      ⟨(k - 110) / 2, by omega, by omega⟩
    obtain ⟨hchar, hsep⟩ := h.stores.flagAt (Status.initStatus_flagAt st (by omega : j < 12)).1
    rcases hcase with rfl | rfl
    · rw [hchar]
      split <;> decide
    · rw [hsep, if_neg (by omega)]
      decide

/-- **With exact rationals in the slots no poll is answered as it should be.** -/
theorem never_answered (raw : Kernel ℚ) (w : World ℚ) (calls : List (Call ℚ)) :
    AllSteps (observed call noteChange) PollAnswered (boot raw w, false) calls ↔
      ∀ c ∈ calls, ∀ m, c ≠ .poll m := by
  have hnever : ∀ (p : KernelCtx ℚ × Bool) (c : Call ℚ), Polled w.status.initStatus p →
      (PollChanged p c ↔ ∀ m, c ≠ .poll m) := by
    intro p c h
    cases c with
    | slot i v => exact iff_of_true trivial (fun _ => by simp)
    | flag k b => exact iff_of_true trivial (fun _ => by simp)
    | poll m =>
        refine iff_of_false ?_ fun hne => hne m rfl
        rintro ⟨-, k, hk, hnul⟩
        exact no_early_nul h hk hnul
  have htotal : ∀ (p : KernelCtx ℚ × Bool) (c : Call ℚ),
      ∃ q, observed call noteChange p c = .ok q := by
    intro p c
    cases c <;> exact ⟨_, rfl⟩
  rw [polls_answered_iff, ← allSteps_label_iff htotal]
  exact allSteps_congr hnever (fun _ _ _ h hq => polled_step h hq) (boot_polled raw w)

/-! ## Two polls -/

def pollRequest : { m : AntaresMsg // m.cmd = Comands.callbackReq.code } :=
  ⟨.compose Comands.callbackReq.code 0 1 "", by decide⟩

/-- The first poll comes although nothing has changed since the start, and is answered with the
stream; and one that comes after a store is answered with a size that ends before the flags do. -/
theorem polls_misanswered :
    ¬ AllSteps (observed call noteChange) PollAnswered (boot blank .blank, false)
        [.poll pollRequest] ∧
      ¬ AllSteps (observed call noteChange) PollAnswered (boot blank .blank, false)
        [.slot 2 5, .poll pollRequest] := by
  have hboot := boot_polled blank .blank
  constructor
  · rintro ⟨hpoll, -⟩
    have hchanged := (poll_answered_iff hboot.updated hboot.messageOut _).mp hpoll
    exact absurd hchanged.1 (by decide)
  · rintro ⟨-, hrest⟩
    obtain ⟨q, hq⟩ : ∃ q, observed call noteChange (boot blank .blank, false) (.slot 2 5) = .ok q :=
      ⟨_, rfl⟩
    have h := polled_step hboot hq
    obtain ⟨-, k, hk, hnul⟩ := (poll_answered_iff h.updated h.messageOut _).mp (hrest q hq).1
    exact no_early_nul h hk hnul

end Lgt8.Kernel
