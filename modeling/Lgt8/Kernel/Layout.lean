import Mathlib.Tactic
import Lgt8.Library.Layout
import Lgt8.Servo.Model
import Lgt8.Monitor.Model

/-!
# What a number in a command is stored over

`SERVO_SETPWM` and `WG20_SETVEL` read their number with `sscanf` and `%d`, which stores the four
bytes of an `int`, into fields that are `uint8_t`.  Here the two objects are the bytes they occupy,
laid out as the ARM compiler does, and the two commands are the stores they make.

* `Servo.setpwmStores`, `Monitor.setvelStores` — the stores of the two commands.
* **`Servo.setpwmStores_holds`**, **`Monitor.setvelStores_holds`** — they leave the bytes of the
  object the driver's model leaves.
* **`commands_framed_iff`** — when a command changes nothing but its own fields;
  `setpwm_forgets_pulse` is a `SERVO_SETPWM` after which the next tachometer interval is wrong.
-/

namespace Lgt8

open Library

/-- `sscanf(mes, "%d", p)` with `a` the address in `p`. -/
def sscanfAt (a : ℕ) (mes : List UInt8) (m : Memory) : Memory :=
  match sscanfInts 1 mes with
  | [] => m
  | v :: _ => m.store a (leBytes 4 v)

/-- The bytes behind `a` hold what the number in the text, if there is one, has above its lowest
byte. -/
def Spilled (a : ℕ) (mes : List UInt8) (m : Memory) : Prop :=
  ∀ v ∈ (sscanfInts 1 mes).head?, m.load (a + 1) 3 = leBytes 3 (v / 256)

lemma sscanfAt_frame_iff {a : ℕ} {mes : List UInt8} {m : Memory} :
    (∀ i, i ≠ a → sscanfAt a mes m i = m i) ↔ Spilled a mes m := by
  rw [Spilled, sscanfAt]
  cases sscanfInts 1 mes with
  | nil => simp
  | cons v vs =>
      have hstore : (∀ i, i ≠ a → m.store a (leBytes 4 v) i = m i) ↔ _ := Memory.store_frame_iff
      rw [length_leBytes] at hstore
      refine hstore.trans ⟨fun h w hw => ?_, fun h => h v rfl⟩
      cases hw
      exact h

/-- Four bytes at most. -/
lemma sscanfAt_of_le {a i : ℕ} {mes : List UInt8} {m : Memory} (h : a + 4 ≤ i) :
    sscanfAt a mes m i = m i := by
  rw [sscanfAt]
  cases sscanfInts 1 mes with
  | nil => rfl
  | cons v vs => exact Memory.store_of_le (by rw [length_leBytes]; exact h)

lemma sscanfAt_of_lt {a i : ℕ} {mes : List UInt8} {m : Memory} (h : i < a) :
    sscanfAt a mes m i = m i := by
  rw [sscanfAt]
  cases sscanfInts 1 mes with
  | nil => rfl
  | cons v vs => exact Memory.store_of_lt h

lemma spilled_congr {a : ℕ} {mes : List UInt8} {m m' : Memory}
    (h : m'.load (a + 1) 3 = m.load (a + 1) 3) : Spilled a mes m' ↔ Spilled a mes m := by
  rw [Spilled, Spilled, h]

/-! ## The `Servo` object -/

namespace Servo

/-- The members of the class from the first `double` on, which lies at a multiple of eight. -/
inductive Field
  | svctl | servotransfer | events | dummyevt | enableServo | presentPwm0 | requestPwm0
  | lastTach | thisTach | tachbuffer | tachbufferptr | updatetachFlag | tachval | speed
  | tachTheta | servoSetpoint | updatestatus | sweepmapptr | enable
  deriving DecidableEq

/-- The queue is a `std::deque`: a pointer, a size and two iterators of four pointers. -/
def Field.ctype : Field → CType
  | .svctl => .array 7 .double
  | .servotransfer => .array 3 .double
  | .events => .array 10 .word
  | .dummyevt => .word
  | .enableServo => .byte
  | .presentPwm0 => .byte
  | .requestPwm0 => .byte
  | .lastTach => .word
  | .thisTach => .word
  | .tachbuffer => .array 5 .word
  | .tachbufferptr => .byte
  | .updatetachFlag => .word
  | .tachval => .word
  | .speed => .double
  | .tachTheta => .byte
  | .servoSetpoint => .double
  | .updatestatus => .byte
  | .sweepmapptr => .word
  | .enable => .byte

/-- In the order of their declaration. -/
def fields : List Field :=
  [.svctl, .servotransfer, .events, .dummyevt, .enableServo, .presentPwm0, .requestPwm0,
    .lastTach, .thisTach, .tachbuffer, .tachbufferptr, .updatetachFlag, .tachval, .speed,
    .tachTheta, .servoSetpoint, .updatestatus, .sweepmapptr, .enable]

/-- The address of a field, `org` being that of the first. -/
def addr (org : ℕ) (f : Field) : ℕ := org + offset Field.ctype f 0 fields

/-- Address `i` belongs to the field `f`. -/
def InField (org : ℕ) (f : Field) (i : ℕ) : Prop :=
  addr org f ≤ i ∧ i < addr org f + f.ctype.size

example : fields.map (addr 0) = [0, 56, 80, 120, 124, 125, 126, 128, 132, 136, 156, 160, 164, 168,
    176, 184, 192, 196, 200] := by decide

variable {F : Type} (enc : F → Vector UInt8 8)

/-- The bytes of a field, `enc` being how a `double` is stored; pointers and the queue are left
out. -/
def fieldBytes (sv : Servo F) : Field → Option (List UInt8)
  | .svctl => some <| [sv.svctl.dState, sv.svctl.iState, sv.svctl.iMax, sv.svctl.iMin,
      sv.svctl.iGain, sv.svctl.pGain, sv.svctl.dGain].flatMap fun x => (enc x).toList
  | .servotransfer => some <| [sv.servotransfer.a0, sv.servotransfer.a1,
      sv.servotransfer.a2].flatMap fun x => (enc x).toList
  | .enableServo => some [if sv.enableServo then 1 else 0]
  | .presentPwm0 => some [sv.presentPwm0]
  | .requestPwm0 => some [sv.requestPwm0]
  | .lastTach => some (leBytes 4 sv.lastTach.toNat)
  | .thisTach => some (leBytes 4 sv.thisTach.toNat)
  | .tachbuffer => some (sv.tachbuffer.toList.flatMap fun w => leBytes 4 w.toNat)
  | .tachbufferptr => some [sv.tachbufferptr]
  | .updatetachFlag => some (leBytes 4 sv.updatetachFlag.toNat)
  | .tachval => some (leBytes 4 sv.tachval.toNat)
  | .speed => some (enc sv.speed).toList
  | .tachTheta => some [sv.tachTheta]
  | .servoSetpoint => some (enc sv.servoSetpoint).toList
  | .updatestatus => some [if sv.updatestatus then 1 else 0]
  | _ => none

/-- The object lies in memory at `org`. -/
def Holds (org : ℕ) (sv : Servo F) (m : Memory) : Prop :=
  ∀ f bs, fieldBytes enc sv f = some bs → m.load (addr org f) bs.length = bs

lemma fieldBytes_length {sv : Servo F} {f : Field} {bs : List UInt8}
    (h : fieldBytes enc sv f = some bs) : bs.length = f.ctype.size := by
  cases f <;> cases h <;> simp [Field.ctype, CType.array, CType.double, CType.word, CType.byte]

section

variable {org : ℕ} {sv : Servo F} {m : Memory}

/-- A field that a store does not reach. -/
lemma Holds.kept (h : Holds enc org sv m) {f : Field} {bs : List UInt8}
    (hf : fieldBytes enc sv f = some bs) {a : ℕ} {src : List UInt8}
    (hd : addr org f + f.ctype.size ≤ a ∨ a + src.length ≤ addr org f) :
    (m.store a src).load (addr org f) bs.length = bs := by
  rw [Memory.load_store_of_disjoint]
  · exact h f bs hf
  · rwa [fieldBytes_length enc hf]

/-- Storing a new setpoint. -/
lemma Holds.setpoint (h : Holds enc org sv m) (x : F) : Holds enc org
    { sv with servoSetpoint := x } (m.store (addr org .servoSetpoint) (enc x).toList) := by
  intro f bs hf
  by_cases hset : f = .servoSetpoint
  · subst hset
    cases hf
    exact Memory.load_store
  · have hold : fieldBytes enc sv f = some bs := by
      cases f <;> first | exact hf | exact absurd rfl hset
    have hapart : ∀ g : Field, g ≠ .servoSetpoint →
        offset Field.ctype g 0 fields + g.ctype.size ≤ 184 ∨
          192 ≤ offset Field.ctype g 0 fields := by
      intro g hg
      cases g <;> first | exact absurd rfl hg | decide
    have hsize : (enc x).toList.length = 8 := Vector.length_toList
    have hplace : addr org .servoSetpoint = org + 184 := rfl
    refine h.kept enc hold ?_
    rw [hsize, hplace, addr]
    rcases hapart f hset with hle | hle <;> omega

/-- Storing the four bytes of `v` over the request. -/
lemma Holds.request (h : Holds enc org sv m) (v : ℤ) : Holds enc org
    { sv with
      requestPwm0 := uint8 v
      lastTach := UInt32.ofNat
        (sv.lastTach.toNat / 65536 * 65536 + (v % 4294967296).toNat / 65536) }
    (m.store (addr org .requestPwm0) (leBytes 4 v)) := by
  intro f bs hf
  have hplace : addr org .requestPwm0 = org + 126 := rfl
  by_cases hreq : f = .requestPwm0
  · subst hreq
    cases hf
    exact Memory.load_eq_iff.mpr fun k hk => by
      obtain rfl : k = 0 := by simpa using hk
      exact Memory.store_apply (k := 0) (by simp)
  by_cases htach : f = .lastTach
  · subst htach
    cases hf
    have hlast : m.load (org + 128) 4 = leBytes 4 sv.lastTach.toNat := h .lastTach _ rfl
    have hnew : (UInt32.ofNat (sv.lastTach.toNat / 65536 * 65536
        + (v % 4294967296).toNat / 65536)).toNat
          = sv.lastTach.toNat / 65536 * 65536 + (v % 4294967296).toNat / 65536 := by
      have := sv.lastTach.toNat_lt
      rw [UInt32.toNat_ofNat']
      omega
    rw [hplace, length_leBytes]
    dsimp only
    rw [hnew]
    show Memory.load (org + 128) 4 _ = _
    simp only [Memory.load_cons, leBytes, List.cons.injEq] at hlast ⊢
    obtain ⟨-, -, hlast2, hlast3, -⟩ := hlast
    -- two bytes come from the number, and two were there
    refine ⟨(Memory.store_apply (k := 2) (by simp)).trans (uint8_congr ?_),
      (Memory.store_apply (k := 3) (by simp)).trans (uint8_congr ?_),
      (Memory.store_of_le (by simp)).trans (hlast2.trans (uint8_congr ?_)),
      (Memory.store_of_le (by simp)).trans (hlast3.trans (uint8_congr ?_)), rfl⟩
    all_goals
      push_cast
      omega
  · have hold : fieldBytes enc sv f = some bs := by
      cases f <;> first | exact hf | exact absurd rfl hreq | exact absurd rfl htach
    have hapart : ∀ g : Field, g ≠ .requestPwm0 → g ≠ .lastTach →
        offset Field.ctype g 0 fields + g.ctype.size ≤ 126 ∨
          130 ≤ offset Field.ctype g 0 fields := by
      intro g hg hg'
      cases g <;> first | exact absurd rfl hg | exact absurd rfl hg' | decide
    refine h.kept enc hold ?_
    rw [length_leBytes, hplace, addr]
    rcases hapart f hreq htach with hle | hle <;> omega

end

variable [DoubleOps F]

/-- The stores of `SERVO_SETPWM` with argument 1. -/
def setpwmStores (org : ℕ) (mes : List UInt8) (m : Memory) : Memory :=
  let m := m.store (addr org .servoSetpoint) (enc DoubleOps.zero).toList
  sscanfAt (addr org .requestPwm0) mes m

/-- The interval a `serviceTach` at `tick` records. -/
def recorded (org : ℕ) (tick : UInt32) (m : Memory) : UInt32 :=
  let thisTach := tick - UInt32.ofNat (leNat (m.load (addr org .lastTach) 4))
  if 2000 < thisTach then 0 else thisTach

/-- The command changes no byte but those of its two fields, and the next interval is what it would
have been. -/
structure SetpwmFramed (org : ℕ) (mes : List UInt8) (m : Memory) : Prop where
  bytes : ∀ i, ¬ InField org .servoSetpoint i → ¬ InField org .requestPwm0 i →
    setpwmStores enc org mes m i = m i
  interval : ∀ tick, recorded org tick (setpwmStores enc org mes m) = recorded org tick m

omit [DoubleOps F] in
lemma load_setpoint {org : ℕ} {x : F} {m : Memory} {a n : ℕ} (h : a + n ≤ org + 184) :
    (m.store (addr org .servoSetpoint) (enc x).toList).load a n = m.load a n :=
  Memory.load_store_of_disjoint (Or.inl h)

/-- **When `SERVO_SETPWM` stays in its fields.** -/
theorem setpwmFramed_iff (org : ℕ) (mes : List UInt8) (m : Memory) :
    SetpwmFramed enc org mes m ↔ Spilled (addr org .requestPwm0) mes m := by
  have hset : ∀ i, ¬ InField org .servoSetpoint i →
      m.store (addr org .servoSetpoint) (enc DoubleOps.zero).toList i = m i := by
    intro i hi
    refine if_neg fun h => hi ⟨h.1, ?_⟩
    rw [Vector.length_toList] at h
    exact h.2
  have hspill : Spilled (addr org .requestPwm0) mes
      (m.store (addr org .servoSetpoint) (enc DoubleOps.zero).toList)
        ↔ Spilled (addr org .requestPwm0) mes m :=
    spilled_congr (load_setpoint enc (show org + 126 + 1 + 3 ≤ org + 184 by omega))
  constructor
  · intro h
    refine hspill.mp (sscanfAt_frame_iff.mp fun i hi => ?_)
    by_cases hin : InField org .servoSetpoint i
    · exact sscanfAt_of_le (Nat.le_trans (show org + 126 + 4 ≤ org + 184 by omega) hin.1)
    · refine (h.bytes i hin fun hreq => hi ?_).trans (hset i hin).symm
      exact Nat.le_antisymm (Nat.lt_succ_iff.mp hreq.2) hreq.1
  · intro h
    have hbytes : ∀ i, ¬ InField org .servoSetpoint i → ¬ InField org .requestPwm0 i →
        setpwmStores enc org mes m i = m i := by
      intro i hin hreq
      refine (sscanfAt_frame_iff.mpr (hspill.mpr h) i ?_).trans (hset i hin)
      rintro rfl
      exact hreq ⟨le_rfl, Nat.lt_succ_self _⟩
    refine ⟨hbytes, fun tick => ?_⟩
    have hload : (setpwmStores enc org mes m).load (addr org .lastTach) 4
        = m.load (addr org .lastTach) 4 := by
      refine List.map_congr_left fun k hk => hbytes _ (fun hin => ?_) fun hreq => ?_
      · have hlt := List.mem_range.mp hk
        have hle : org + 184 ≤ org + 128 + k := hin.1
        omega
      · have hlt : org + 128 + k < org + 126 + 1 := hreq.2
        omega
    rw [recorded, hload, recorded]

/-- **The stores of `SERVO_SETPWM` are those of the driver's model.** -/
theorem setpwmStores_holds {org : ℕ} {s : ServoCtx F} {m : Memory} (h : Holds enc org s.obj m)
    (mes : List UInt8) :
    Holds enc org (serviceSetpwm 1 mes s).obj (setpwmStores enc org mes m) := by
  have hset := h.setpoint enc DoubleOps.zero
  have hobj : (serviceSetpwm 1 mes s).obj
      = (scanRequest mes { s with obj.servoSetpoint := DoubleOps.zero }).obj := rfl
  rw [hobj, scanRequest, setpwmStores, sscanfAt]
  cases sscanfInts 1 mes with
  | nil => exact hset
  | cons v vs => exact hset.request enc v

omit [DoubleOps F] in
/-- The recorded interval is that of the driver's model. -/
lemma recorded_eq {org : ℕ} {s : ServoCtx F} {m : Memory} (h : Holds enc org s.obj m)
    (tick : UInt32) : recorded org tick m = (serviceTach tick s).obj.thisTach := by
  have hlast : m.load (addr org .lastTach) 4 = leBytes 4 s.obj.lastTach.toNat := h .lastTach _ rfl
  have hnat : leNat (leBytes 4 s.obj.lastTach.toNat) = s.obj.lastTach.toNat := by
    have hlt := s.obj.lastTach.toNat_lt
    have := leNat_leBytes 4 s.obj.lastTach.toNat
    omega
  rw [recorded, hlast, hnat, UInt32.ofNat_toNat, serviceTach]
  dsimp only
  split_ifs <;> rfl

end Servo

/-! ## The `Monitor` object -/

namespace Monitor

/-- The members of the class; the first is the pointer to its virtual functions. -/
inductive Field
  | vptr | events | dummyevt | wg20Cw | drum | vaccum | wg20pwm
  deriving DecidableEq

def Field.ctype : Field → CType
  | .vptr => .word
  | .events => .array 10 .word
  | .dummyevt => .word
  | .wg20Cw => .byte
  | .drum => .byte
  | .vaccum => .byte
  | .wg20pwm => .byte

def fields : List Field := [.vptr, .events, .dummyevt, .wg20Cw, .drum, .vaccum, .wg20pwm]

def addr (base : ℕ) (f : Field) : ℕ := base + offset Field.ctype f 0 fields

/-- `sizeof(Monitor)`: the last field ends where the object does. -/
def size : ℕ := 52

example : addr 0 .wg20pwm + Field.wg20pwm.ctype.size = size := by decide

def fieldBytes (mon : Monitor) : Field → Option (List UInt8)
  | .wg20Cw => some [if mon.wg20Cw then 1 else 0]
  | .drum => some [if mon.drum then 1 else 0]
  | .vaccum => some [if mon.vaccum then 1 else 0]
  | .wg20pwm => some [mon.wg20pwm]
  | _ => none

def Holds (base : ℕ) (mon : Monitor) (m : Memory) : Prop :=
  ∀ f bs, fieldBytes mon f = some bs → m.load (addr base f) bs.length = bs

/-- The stores of `WG20_SETVEL`. -/
def setvelStores (base : ℕ) (arg : UInt8) (mes : List UInt8) (m : Memory) : Memory :=
  let m := m.store (addr base .wg20Cw) [if arg = 0 then 0 else 1]
  sscanfAt (addr base .wg20pwm) mes m

/-- The command changes no byte but those of its two fields, inside the object or outside. -/
def SetvelFramed (base : ℕ) (arg : UInt8) (mes : List UInt8) (m : Memory) : Prop :=
  ∀ i, i ≠ addr base .wg20Cw → i ≠ addr base .wg20pwm → setvelStores base arg mes m i = m i

/-- **When `WG20_SETVEL` stays in its fields.** -/
theorem setvelFramed_iff (base : ℕ) (arg : UInt8) (mes : List UInt8) (m : Memory) :
    SetvelFramed base arg mes m ↔ Spilled (addr base .wg20pwm) mes m := by
  have hcw : ∀ i, i ≠ addr base .wg20Cw →
      m.store (addr base .wg20Cw) [if arg = 0 then 0 else 1] i = m i := by
    intro i hi
    rcases Nat.lt_or_gt_of_ne hi with hlt | hgt
    · exact Memory.store_of_lt hlt
    · exact Memory.store_of_le hgt
  have hspill : Spilled (addr base .wg20pwm) mes
      (m.store (addr base .wg20Cw) [if arg = 0 then 0 else 1])
        ↔ Spilled (addr base .wg20pwm) mes m :=
    spilled_congr (Memory.load_store_of_disjoint
      (Or.inr (show base + 48 + 1 ≤ base + 51 + 1 by omega)))
  constructor
  · intro h
    refine hspill.mp (sscanfAt_frame_iff.mp fun i hi => ?_)
    by_cases hi' : i = addr base .wg20Cw
    · exact sscanfAt_of_lt (hi' ▸ show base + 48 < base + 51 by omega)
    · exact (h i hi' hi).trans (hcw i hi').symm
  · intro h i hi hi'
    exact (sscanfAt_frame_iff.mpr (hspill.mpr h) i hi').trans (hcw i hi)

lemma fieldBytes_length {mon : Monitor} {f : Field} {bs : List UInt8}
    (h : fieldBytes mon f = some bs) : bs.length = f.ctype.size := by
  cases f <;> cases h <;> rfl

section

variable {base : ℕ} {mon : Monitor} {m : Memory}

lemma Holds.kept (h : Holds base mon m) {f : Field} {bs : List UInt8}
    (hf : fieldBytes mon f = some bs) {a : ℕ} {src : List UInt8}
    (hd : addr base f + f.ctype.size ≤ a ∨ a + src.length ≤ addr base f) :
    (m.store a src).load (addr base f) bs.length = bs := by
  rw [Memory.load_store_of_disjoint]
  · exact h f bs hf
  · rwa [fieldBytes_length hf]

lemma Holds.cw (h : Holds base mon m) (cw : Bool) : Holds base { mon with wg20Cw := cw }
    (m.store (addr base .wg20Cw) [if cw then 1 else 0]) := by
  intro f bs hf
  by_cases hcw : f = .wg20Cw
  · subst hcw
    cases hf
    exact Memory.load_store
  · have hold : fieldBytes mon f = some bs := by
      cases f <;> first | exact hf | exact absurd rfl hcw
    have hapart : ∀ g : Field, g ≠ .wg20Cw → offset Field.ctype g 0 fields + g.ctype.size ≤ 48 ∨
        49 ≤ offset Field.ctype g 0 fields := by
      intro g hg
      cases g <;> first | exact absurd rfl hg | decide
    have hplace : addr base .wg20Cw = base + 48 := rfl
    refine h.kept hold ?_
    rw [hplace, addr, List.length_singleton]
    rcases hapart f hcw with hle | hle <;> omega

lemma Holds.vel (h : Holds base mon m) (v : ℤ) : Holds base { mon with wg20pwm := uint8 v }
    (m.store (addr base .wg20pwm) (leBytes 4 v)) := by
  intro f bs hf
  have hplace : addr base .wg20pwm = base + 51 := rfl
  by_cases hpwm : f = .wg20pwm
  · subst hpwm
    cases hf
    exact Memory.load_eq_iff.mpr fun k hk => by
      obtain rfl : k = 0 := by simpa using hk
      exact Memory.store_apply (k := 0) (by simp)
  · have hold : fieldBytes mon f = some bs := by
      cases f <;> first | exact hf | exact absurd rfl hpwm
    have hbefore : ∀ g : Field, g ≠ .wg20pwm →
        offset Field.ctype g 0 fields + g.ctype.size ≤ 51 := by
      intro g hg
      cases g <;> first | exact absurd rfl hg | decide
    have := hbefore f hpwm
    refine h.kept hold (Or.inl ?_)
    rw [hplace, addr]
    omega

end

/-- **The stores of `WG20_SETVEL` are those of the driver's model.** -/
theorem setvelStores_holds {F : Type} [DoubleOps F] {base : ℕ} {s : MonitorCtx F} {m : Memory}
    (h : Holds base s.obj m) {mes : AntaresMsg} (hcmd : mes.cmd = Comands.wg20Setvel.code) :
    Holds base (serviceMsg mes s).obj (setvelStores base mes.arg mes.data m) := by
  have hcw := h.cw (decide (mes.arg ≠ 0))
  have hbyte : (if decide (mes.arg ≠ 0) then 1 else 0 : UInt8) = if mes.arg = 0 then 0 else 1 := by
    by_cases ha : mes.arg = 0 <;> simp [ha]
  rw [hbyte] at hcw
  have hobj : (serviceMsg mes s).obj
      = (scanVel mes.data { s with obj.wg20Cw := decide (mes.arg ≠ 0) }).obj := by
    rw [serviceMsg, if_neg (by rw [hcmd]; decide), if_neg (by rw [hcmd]; decide),
      if_neg (by rw [hcmd]; decide), if_pos hcmd]
    dsimp only
    rw [logMessage_obj, setWG20Vel, storeMonitorSlot_obj, setPWM_obj]
    by_cases ha : mes.arg = 0
    · have hd : decide (mes.arg ≠ 0) = false := by simp [ha]
      rw [if_pos ha, hd, scanVel, scanVel]
      split <;> rfl
    · have hd : decide (mes.arg ≠ 0) = true := by simp [ha]
      rw [if_neg ha, hd, scanVel, scanVel]
      split <;> rfl
  rw [hobj, scanVel, setvelStores, sscanfAt]
  cases sscanfInts 1 mes.data with
  | nil => exact hcw
  | cons v vs => exact hcw.vel v

end Monitor

namespace Kernel

variable {F : Type} [DoubleOps F]

/-- **When the two commands stay in their fields.**  `SERVO_SETPWM` with argument 1 changes nothing
but the setpoint and the request, and leaves the next tachometer interval alone, exactly if there is
no number in its text or the three bytes behind the request — one of padding and the low half of
`last_tach` — already are the upper three of the number.  `WG20_SETVEL` changes nothing but its two
fields exactly if the same holds of the three bytes behind the object. -/
theorem commands_framed_iff (enc : F → Vector UInt8 8) (org base : ℕ) (arg : UInt8)
    (mes mes' : List UInt8) (m : Memory) :
    (Servo.SetpwmFramed enc org mes m ↔
      ∀ v ∈ (sscanfInts 1 mes).head?,
        m.load (Servo.addr org .requestPwm0 + 1) 3 = leBytes 3 (v / 256)) ∧
    (Monitor.SetvelFramed base arg mes' m ↔
      ∀ v ∈ (sscanfInts 1 mes').head?, m.load (base + Monitor.size) 3 = leBytes 3 (v / 256)) :=
  ⟨Servo.setpwmFramed_iff enc org mes m, Monitor.setvelFramed_iff base arg mes' m⟩

/-- A servo whose last pulse came at tick 1, and its bytes. -/
def pulsed : Servo ℚ := { Servo.blank with lastTach := 1 }

def pulsedBytes : Memory := fun i => if i = 128 then 1 else 0

/-- Every `double` of that object is zero, and stored as such. -/
def zeroBytes (_ : ℚ) : Vector UInt8 8 := Vector.replicate 8 0

lemma pulsedBytes_holds : Servo.Holds zeroBytes 0 pulsed pulsedBytes := by
  intro f bs hf
  cases f <;> cases hf <;> decide

/-- After a request of fifty percent the pulse at tick 1 is forgotten: one at tick 3 is recorded with
the interval 3, and not 2. -/
theorem setpwm_forgets_pulse :
    Servo.Holds zeroBytes 0 pulsed pulsedBytes ∧
      Servo.recorded 0 3 pulsedBytes = 2 ∧
      Servo.recorded 0 3 (Servo.setpwmStores zeroBytes 0 (ascii "50") pulsedBytes) = 3 ∧
      ¬ Servo.SetpwmFramed zeroBytes 0 (ascii "50") pulsedBytes := by
  have hbefore : Servo.recorded 0 3 pulsedBytes = 2 := by decide
  have hafter : Servo.recorded 0 3 (Servo.setpwmStores zeroBytes 0 (ascii "50") pulsedBytes) = 3 := by
    decide
  refine ⟨pulsedBytes_holds, hbefore, hafter, fun h => ?_⟩
  have := h.interval 3
  rw [hbefore, hafter] at this
  exact absurd this (by decide)

end Kernel

end Lgt8
