import Mathlib.Tactic
import Lgt8.Kernel.Backlog

/-!
# How much may be said between two `IDLE` turns

The numbers in the texts are `int`s, so no turn says more than 82 bytes.  The start takes 434, and 37
turns that say something still fit behind it.

* `Short`, `fmtD_short`, `fmtP_short` — bounds on the length of a text.
* **`texts_size`** — no turn says more than 82 bytes; `turn_speed` is the invariant it rests on.
* **`log_within_of_few`** — a run in which no more than 37 turns say something between two `IDLE` turns
  keeps the log in its buffer, whatever they are.
-/

namespace Lgt8

open Library

/-- The value of an `int`. -/
def IsInt (n : ℤ) : Prop := -2147483648 ≤ n ∧ n < 2147483648

lemma isInt_int32 (n : ℤ) : IsInt (int32 n) := ⟨int32_lower n, int32_upper n⟩

/-- A number out of a text, or what the local held. -/
lemma isInt_scanned {n : ℕ} {bs : List UInt8} {i : ℕ} {d : ℤ} (hd : IsInt d) :
    IsInt ((sscanfInts n bs).getD i d) := by
  rw [List.getD_eq_getElem?_getD]
  cases h : (sscanfInts n bs)[i]? with
  | none => exact hd
  | some v => exact sscanfInts_range (List.mem_of_getElem? h)

lemma isInt_uint8 (v : UInt8) : IsInt v.toNat := by
  have := v.toNat_lt
  rw [IsInt]
  omega

lemma isInt_zero : IsInt 0 := ⟨by decide, by decide⟩

lemma isInt_one : IsInt 1 := ⟨by decide, by decide⟩

/-! ## Lengths -/

/-- The text takes at most `n` bytes. -/
def Short (n : ℕ) (text : String) : Prop := (ascii text).length ≤ n

instance (n : ℕ) (text : String) : Decidable (Short n text) := inferInstanceAs (Decidable (_ ≤ _))

lemma Short.append {m n : ℕ} {t u : String} (ht : Short m t) (hu : Short n u) :
    Short (m + n) (t ++ u) := by
  rw [Short, ascii, String.toList_append, List.map_append, List.length_append]
  exact Nat.add_le_add ht hu

lemma Short.mono {m n : ℕ} {t : String} (ht : Short m t) (h : m ≤ n) : Short n t :=
  le_trans ht h

/-- A number without its sign. -/
lemma repr_short {n k : ℕ} (hk : 0 < k) (h : n < 10 ^ k) : Short k n.repr := by
  rw [Short, ascii, List.length_map, Nat.toList_repr]
  exact (Nat.length_toDigits_le_iff (by decide) hk).mpr h

/-- `%d` of an `int`. -/
lemma fmtD_short {n : ℤ} (h : IsInt n) : Short 11 (fmtD n) := by
  obtain ⟨hlo, hhi⟩ := h
  rw [fmtD, Int.toString_eq_repr, Int.repr_eq_if]
  split
  · exact (repr_short (k := 10) (by decide) (by omega)).mono (by decide)
  · exact Short.append (m := 1) (n := 10) (by decide) (repr_short (by decide) (by omega))

lemma fmtP_short (n : ℤ) : Short 10 (fmtP n) := by
  refine Short.append (m := 2) (n := 8) (by decide) ?_
  rw [Short, ascii, List.length_map, String.toList_ofList]
  exact (Nat.length_toDigits_le_iff (by decide) (by decide)).mpr (by omega)

/-- A text with one number in it. -/
lemma Short.one {x : ℤ} (hx : IsInt x) {k : ℕ} (a b : String) (h : Short k (a ++ b)) :
    Short (k + 11) (a ++ fmtD x ++ b) := by
  have hnumber := fmtD_short hx
  simp only [Short, ascii, List.length_map, String.toList_append, List.length_append] at *
  omega

/-- A text with two. -/
lemma Short.two {x y : ℤ} (hx : IsInt x) (hy : IsInt y) {k : ℕ} (a b c : String)
    (h : Short k (a ++ b ++ c)) : Short (k + 22) (a ++ fmtD x ++ b ++ fmtD y ++ c) := by
  have hfirst := fmtD_short hx
  have hsecond := fmtD_short hy
  simp only [Short, ascii, List.length_map, String.toList_append, List.length_append] at *
  omega

/-- One text. -/
lemma Short.single {n : ℕ} {t : String} (h : Short n t) : Log.size [t] ≤ n := by
  rw [Log.size, List.map_singleton, List.sum_singleton]
  exact h

/-- A text and those behind it. -/
lemma Short.cons {m n : ℕ} {t : String} {ts : List String} (h : Short m t)
    (hs : Log.size ts ≤ n) : Log.size (t :: ts) ≤ m + n := by
  rw [Log.size, List.map_cons, List.sum_cons]
  exact Nat.add_le_add h hs

/-! ## What a turn says at most -/

namespace Sweep

variable {F : Type}

lemma enableOn_short : Short 17 "Sweep enable on\r\n" := by decide

lemma moveTexts_size (target : ℤ) (sw : Sweep) : Log.size (moveTexts target sw) ≤ 17 := by
  rw [moveTexts]
  split
  · exact enableOn_short.single
  · exact Nat.zero_le 17

lemma entryTexts_size (sw : Sweep) (st : Adm) : Log.size (entryTexts sw st) ≤ 27 := by
  cases st with
  | coldStart => exact Nat.zero_le 27
  | idle => exact Nat.zero_le 27
  | setParked =>
      have hfound : Short 15 "Parked found @ " := by decide
      have hend : Short 2 "\r\n" := by decide
      exact ((hfound.append (fmtP_short sw.sweepmapptr)).append hend).single
  | searchOut => exact (enableOn_short.mono (by decide)).single
  | searchIn => exact (enableOn_short.mono (by decide)).single

lemma cmdTexts_size (m : AntaresMsg) {s : SweepCtx F} (h : IsInt s.obj.sweepjobSpeed) :
    Log.size (cmdTexts m s) ≤ 60 := by
  have htarget : IsInt (gotoTarget m s) := isInt_scanned (isInt_int32 _)
  have hspeed : IsInt (gotoSpeed m s) := isInt_scanned (isInt_int32 _)
  rw [cmdTexts]
  split_ifs
  · have hgoto := Short.two htarget hspeed (k := 18) "Sweep goto : " " / " "\r\n" (by decide)
    exact (hgoto.cons (moveTexts_size _ _)).trans (by decide)
  · have hin : IsInt (scanIn m s) := isInt_int32 _
    have hout : IsInt (scanOut m s) := isInt_int32 _
    have hjob : IsInt (scanning m s).sweepjobSpeed := isInt_scanned h
    have hlimits := Short.two hin hout (k := 19) "Sweep scan : " " / " " / " (by decide)
    have hend : Short 2 "\r\n" := by decide
    exact (((hlimits.append (fmtD_short hjob)).append hend).mono (by decide)).single
  · have habort : Short 60 "Sweep scan was aborted\r\n" := by decide
    exact habort.single
  · exact (enableOn_short.mono (by decide)).single
  · have hoff : Short 60 "Sweep enable off\r\n" := by decide
    exact hoff.single
  · have hdir := Short.one isInt_one (k := 49) "Sweep dir set to : " "\r\n" (by decide)
    exact hdir.single
  · have hdir := Short.one isInt_zero (k := 49) "Sweep dir set to : " "\r\n" (by decide)
    exact hdir.single
  · exact (Short.two htarget hspeed (k := 38) "Sweep Pulse Burst requested : " "  / " "\r\n"
      (by decide)).single
  · exact (Short.two (isInt_uint8 m.cmd) (isInt_uint8 m.arg) (k := 38)
      "Received Unknown Sweep Packet : " " " "\r\n" (by decide)).single

/-- **Sixty bytes at most.** -/
theorem texts_size {s : SweepCtx F} (h : IsInt s.obj.sweepjobSpeed) :
    Log.size (texts s) ≤ 60 := by
  rw [texts]
  split
  · exact Nat.zero_le 60
  · split
    · next m _ =>
        rw [msgTexts]
        split
        · have hpark : Short 22 "Sweep Park requested\r\n" := by decide
          exact (hpark.cons (entryTexts_size _ _)).trans (by decide)
        · exact cmdTexts_size m h
    · rw [ownTexts]
      split
      · split
        · exact (entryTexts_size _ _).trans (by decide)
        · exact Nat.zero_le 60
      · split
        · exact (moveTexts_size _ _).trans (by decide)
        · exact Nat.zero_le 60

end Sweep

namespace Servo

variable {F : Type}

/-- **Sixty bytes at most.** -/
theorem texts_size (s : ServoCtx F) : Log.size (texts s) ≤ 60 := by
  rw [texts]
  split
  · next m _ =>
      have hpoint : IsInt ((sscanfInts 1 m.data).getD 0 (junk s)) := isInt_scanned (isInt_int32 _)
      rw [msgTexts]
      split_ifs
      · exact (Short.one isInt_one (k := 49) "Servo enabled seto to : " " \r\n" (by decide)).single
      · exact (Short.one isInt_zero (k := 49) "Servo enabled seto to : " " \r\n" (by decide)).single
      · exact (Short.one (isInt_uint8 _) (k := 49) "Servo PWM set to : " " \r\n" (by decide)).single
      · have hreset : Short 60 "Servo PWM was reseted \r\n" := by decide
        exact hreset.single
      · exact (Short.one hpoint (k := 49) "Servo Setpoint set to : " "\r\n" (by decide)).single
      · have hreset : Short 60 "Servo Setpoint was reseted \r\n" := by decide
        exact hreset.single
      · exact (Short.two (isInt_uint8 m.cmd) (isInt_uint8 m.arg) (k := 38)
          "Received unknown SERVO Packet : " ", " "\r\n" (by decide)).single
  · exact Nat.zero_le 60

end Servo

namespace Monitor

variable {F : Type}

/-- **Sixty bytes at most.** -/
theorem texts_size (s : MonitorCtx F) : Log.size (texts s) ≤ 60 := by
  rw [texts]
  split
  · next m _ =>
      rw [msgTexts]
      split_ifs
      · have hon : Short 60 "Vaccum activated\r\n" := by decide
        exact hon.single
      · have hoff : Short 60 "Vaccum deactivated\r\n" := by decide
        exact hoff.single
      · have hon : Short 60 "Drum activated\r\n" := by decide
        exact hon.single
      · have hoff : Short 60 "Drum deactivated\r\n" := by decide
        exact hoff.single
      · exact (Short.one (isInt_uint8 _) (k := 49) "WG20 dir set to : " "\r\n" (by decide)).single
      · exact (Short.two (isInt_uint8 _) isInt_zero (k := 38) "WG20 Vel set to  " " / " "\r\n"
          (by decide)).single
      · exact (Short.two (isInt_uint8 _) isInt_one (k := 38) "WG20 Vel set to  " " / " "\r\n"
          (by decide)).single
      · have hreset : Short 60 "monitor reset received\r\n" := by decide
        exact hreset.single
      · exact (Short.two (isInt_uint8 m.cmd) (isInt_uint8 m.arg) (k := 38)
          "Received unknown Monitor Packet : " ", " "\r\n" (by decide)).single
  · exact Nat.zero_le 60

end Monitor

/-! ## The speed of the scan job is an `int` -/

namespace Sweep

variable {F : Type}

/-- The job's speed after is the one before, or was read from a text. -/
def SpeedKept (s t : SweepCtx F) : Prop := IsInt s.obj.sweepjobSpeed → IsInt t.obj.sweepjobSpeed

lemma enterState_speed (st : Adm) (s : SweepCtx F) : SpeedKept s (enterState st s) := by
  cases st with
  | coldStart => exact id
  | idle => exact id
  | setParked => exact id
  | searchOut =>
      rw [enterState, entry, SpeedKept, slide_obj]
      exact id
  | searchIn =>
      rw [enterState, entry, SpeedKept, slide_obj]
      exact id

lemma Commanded.speed {m : AntaresMsg} {s : SweepCtx F} {sw : Sweep} (h : Commanded m s sw)
    (hspeed : IsInt s.obj.sweepjobSpeed) : IsInt sw.sweepjobSpeed := by
  cases h with
  | goto => rwa [gone_sweepjobSpeed]
  | scanStart => exact isInt_scanned hspeed
  | scanAbort => exact hspeed
  | enable => exact hspeed
  | dir => exact hspeed
  | other => exact hspeed

lemma sweepJob_speed (s : SweepCtx F) : SpeedKept s (sweepJob s) := by
  rw [SpeedKept, sweepJob_obj, jobbed]
  split
  · exact fun hspeed => (gone_sweepjobSpeed _ _ s.obj).symm ▸ hspeed
  · exact id

lemma serviceFront_speed {s t : SweepCtx F} (h : serviceFront s = .ok t) : SpeedKept s t := by
  have hparts : Contains (SpeedKept (F := F)) :=
    { refl := fun _ => id
      trans := fun h h' => h' ∘ h
      sense := fun _ => id
      enter := enterState_speed
      log := fun _ _ => id
      cmd := fun m s => (serviceCmd_commanded m s).speed
      job := sweepJob_speed
      delete := fun _ _ => id
      pop := fun _ => id }
  exact hparts.front h

end Sweep

namespace Kernel

variable {F : Type}

lemma deliver_speed (evt : Event) (s : KernelCtx F) (sub : BitVec 32) :
    (deliver evt s sub).obj.sweep.sweepjobSpeed = s.obj.sweep.sweepjobSpeed := by
  rw [deliver]
  dsimp only
  split_ifs <;> rfl

lemma mailTurn_speed (s : KernelCtx F) :
    (mailTurn s).obj.sweep.sweepjobSpeed = s.obj.sweep.sweepjobSpeed := by
  rw [mailTurn]
  split
  · rfl
  · next evt _ _ =>
      exact List.foldlRecOn
        (motive := fun t : KernelCtx F => t.obj.sweep.sweepjobSpeed = s.obj.sweep.sweepjobSpeed)
        s.obj.subscriptions (deliver evt) rfl fun t ht sub _ => (deliver_speed evt t sub).trans ht

variable [DoubleOps F]

lemma control_speed (s : KernelCtx F) :
    (control s).obj.sweep.sweepjobSpeed = s.obj.sweep.sweepjobSpeed := by
  rw [control]
  split
  · rfl
  · rw [takeEvent]
    split
    · rfl
    · dsimp only
      split_ifs <;> rfl
  · dsimp only
    split <;> rfl
  · rfl
  · rfl

lemma pit_speed (s : KernelCtx F) :
    (pit s).obj.sweep.sweepjobSpeed = s.obj.sweep.sweepjobSpeed := by
  have halarm : ∀ (t : KernelCtx F) (i : Fin 4), (alarmTurn t i).obj.sweep = t.obj.sweep := by
    intro t i
    rw [alarmTurn]
    split <;> rfl
  have htick := (Sweep.serviceBoard_ticked ⟨s.obj.sweep, s.world⟩).sameJob.sweepjobSpeed
  rw [pit]
  exact List.foldlRecOn
    (motive := fun t : KernelCtx F => t.obj.sweep.sweepjobSpeed = s.obj.sweep.sweepjobSpeed) _
    alarmTurn htick fun t ht i _ => (congrArg Sweep.sweepjobSpeed (halarm t i)).trans ht

/-- **The speed of the scan job stays an `int`.** -/
theorem turn_speed {s t : KernelCtx F} {l : Turn} (h : turn s l = .ok t)
    (hs : IsInt s.obj.sweep.sweepjobSpeed) : IsInt t.obj.sweep.sweepjobSpeed := by
  cases l with
  | gate m =>
      cases h
      rw [ethergate]
      split
      · split <;> exact hs
      · dsimp only
        split <;> exact hs
  | notice n =>
      cases h
      exact hs
  | mail =>
      cases h
      rwa [mailTurn_speed]
  | sweep =>
      obtain ⟨c, hc, rfl⟩ := ok_of_map h
      exact Sweep.serviceFront_speed hc hs
  | servo =>
      obtain ⟨c, hc, rfl⟩ := ok_of_map h
      exact hs
  | monitor =>
      obtain ⟨c, hc, rfl⟩ := ok_of_map h
      exact hs
  | control =>
      cases h
      rwa [control_speed]
  | pit =>
      have hpit : pit s = t := Except.ok.inj h
      rwa [← hpit, pit_speed]
  | tach =>
      cases h
      exact hs
  | adc value =>
      cases h
      exact hs

/-! ## The room behind the start -/

omit [DoubleOps F] in
/-- **No turn says more than 82 bytes.** -/
theorem texts_size {s : KernelCtx F} (h : IsInt s.obj.sweep.sweepjobSpeed) (l : Turn) :
    Log.size (texts s l) ≤ 82 := by
  cases l with
  | notice n => cases n <;> exact Short.single (by decide +kernel)
  | sweep => exact (Sweep.texts_size (s := ⟨s.obj.sweep, s.world⟩) h).trans (by decide)
  | servo => exact (Servo.texts_size ⟨s.obj.servo, s.world⟩).trans (by decide)
  | monitor => exact (Monitor.texts_size ⟨s.obj.monitor, s.world⟩).trans (by decide)
  | gate m => exact Nat.zero_le 82
  | mail => exact Nat.zero_le 82
  | control => exact Nat.zero_le 82
  | pit => exact Nat.zero_le 82
  | tach => exact Nat.zero_le 82
  | adc value => exact Nat.zero_le 82

/-- The turns that said something since the last `IDLE` turn. -/
def noteTurn (s : KernelCtx F) : Turn → ℕ → ℕ
  | .control, n =>
      match s.obj.ctrlState with
      | .idle => 0
      | .recvu => n + 1
      | _ => n
  | l, n => if texts s l = [] then n else n + 1

omit [DoubleOps F] in
/-- A turn that says something takes 82 bytes of the log at most. -/
lemma noteText_le {s : KernelCtx F} (h : IsInt s.obj.sweep.sweepjobSpeed) (l : Turn) {ptr n : ℕ}
    (hptr : ptr ≤ 434 + 82 * n) : noteText s l ptr ≤ 434 + 82 * noteTurn s l n := by
  by_cases hl : l = .control
  · subst hl
    rw [noteText, noteTurn]
    cases s.obj.ctrlState <;> dsimp only <;> omega
  · have hsize := texts_size h l
    have hcount : noteTurn s l n = if texts s l = [] then n else n + 1 := by
      rw [noteTurn]
      exact fun hc => hl hc
    rw [noteText_of_ne hl, hcount]
    split
    · next hnil =>
        rw [hnil]
        exact hptr
    · omega

/-- The log takes every text, and the texts take what their number says at most. -/
structure Tallied (p : KernelCtx F × ℕ) : Prop where
  speed : IsInt p.1.obj.sweep.sweepjobSpeed
  taking : p.1.world.log.Taking
  bound : p.1.world.log.logbufferptr ≤ 434 + 82 * p.2

lemma Tallied.turn {p q : KernelCtx F × ℕ} {l : Turn} (h : Tallied p)
    (hq : observed turn noteTurn p l = .ok q) : Tallied q := by
  obtain ⟨s, n⟩ := p
  obtain ⟨t, n'⟩ := q
  obtain ⟨ht, rfl⟩ : Kernel.turn s l = .ok t ∧ n' = noteTurn s l n := observed_ok.mp hq
  have hlogs : Logs (t, noteText s l s.world.log.logbufferptr) :=
    Logs.turn (p := (s, s.world.log.logbufferptr)) ⟨h.taking, rfl⟩ (observed_ok.mpr ⟨ht, rfl⟩)
  exact ⟨turn_speed ht h.speed, hlogs.taking,
    hlogs.pointer.trans_le (noteText_le h.speed l h.bound)⟩

/-- **37 texts are never too many.**  Whatever they are: a run in which no more than 37 turns say
something between two `IDLE` turns keeps the log in its buffer. -/
theorem log_within_of_few {raw : Kernel F} (hraw : IsInt raw.sweep.sweepjobSpeed) (w : World F)
    {turns : List Turn}
    (h : AllStates (observed turn noteTurn) (fun p => p.2 ≤ 37) (boot raw w, 0) turns) :
    AllStates turn InBuffer (boot raw w) turns := by
  have hlogs := boot_logs raw w
  have hsize : Log.size bootTexts = 434 := by decide +kernel
  have hstart : Tallied (boot raw w, 0) :=
    ⟨hraw, hlogs.taking, (hlogs.pointer.trans hsize).le⟩
  refine allStates_of_observed (I := Tallied) ?_ (fun _ _ _ hp hq => hp.turn hq) hstart h
  intro p hp hn
  have hn' : p.2 ≤ 37 := hn
  have hbound := hp.bound
  rw [InBuffer]
  omega

end Kernel

end Lgt8
