import BringUp.Proofs.Code.Guarantee
import BringUp.Proofs.Kernel.Steady

/-!
# Lock discipline

Kernel code leaves the dispatcher to the kernel's own operations, and these hold interrupts off
whenever they have taken it. Whatever interrupts do between two steps of such code, the lock is
never held with interrupts let in, and no step is kept waiting by it.
-/

namespace BringUp.Kernel

set_option autoImplicit false

variable {M H E α β : Type} [Cpu M]

/-- How kernel code shares its state with interrupts. These act only while they are let in, and
leave the dispatcher free. Where code never `sets` the flag, the flag is clear throughout. -/
def sharing (sets : Bool) : Terms (Kernel M H E) where
  others k k' :=
    k' = k ∨
      (k.interruptible = true ∧ k.held = false ∧ k'.interruptible = true ∧ k'.held = false)
  holds k :=
    (k.held = true → k.interruptible = false) ∧ (sets = false → k.interruptible = false)
  waits ready k := ready k.release = ready k
  others_refl _ := .inl rfl
  others_trans := by
    rintro k k' k'' (rfl | h) (rfl | h')
    · exact .inl rfl
    · exact .inr h'
    · exact .inr h
    · exact .inr ⟨h.1, h.2.1, h'.2.2⟩

/-- The dispatcher is free, and the flag is clear where code never `sets` it. -/
structure Calm (sets : Bool) (k : Kernel M H E) : Prop where
  free : k.held = false
  quiet : sets = false → k.interruptible = false

/-- The dispatcher is taken with interrupts held off. -/
structure Owned (k : Kernel M H E) : Prop where
  taken : k.held = true
  quiet : k.interruptible = false

/-- A step of code that leaves the dispatcher alone. It may wait for anything but the lock. -/
structure OwnStep (sets : Bool) (ready : Kernel M H E → Bool)
    (act : Kernel M H E → Kernel M H E) : Prop where
  ready_release : ∀ k, ready k.release = ready k
  held : ∀ k, (act k).held = k.held
  flag : sets = false → ∀ k, k.interruptible = false → (act k).interruptible = false

/-- Code of steps of its own only, which never set the flag. No operation of the kernel is among
them, not even one that would find nothing to do, such as holding interrupts off once more. -/
inductive Plain : Code (Kernel M H E) α → Prop where
  | done (value : α) : Plain (.done value)
  | stop (cause : Stop) : Plain (.stop cause)
  | step {ready : Kernel M H E → Bool} {act : Kernel M H E → Kernel M H E}
      {next : Kernel M H E → Code (Kernel M H E) α} (own : OwnStep false ready act)
      (rest : ∀ k, Plain (next k)) : Plain (.step ready act next)

/-- Code that reaches the dispatcher through the kernel's operations only. -/
inductive Orderly (sets : Bool) : {α : Type} → Code (Kernel M H E) α → Prop where
  | done {α : Type} (value : α) : Orderly sets (.done value)
  | stop {α : Type} (cause : Stop) : Orderly sets (.stop cause : Code (Kernel M H E) α)
  | step {α : Type} {ready : Kernel M H E → Bool} {act : Kernel M H E → Kernel M H E}
      {next : Kernel M H E → Code (Kernel M H E) α} (own : OwnStep sets ready act)
      (rest : ∀ k, Orderly sets (next k)) : Orderly sets (.step ready act next)
  | bind {α β : Type} {code : Code (Kernel M H E) α} {next : α → Code (Kernel M H E) β}
      (first : Orderly sets code) (rest : ∀ value, Orderly sets (next value)) :
      Orderly sets (code >>= next)
  | register (vector : UInt8) (handler : H) : Orderly sets (Kernel.register vector handler)
  | unregister (vector : UInt8) : Orderly sets (Kernel.unregister vector)
  /-- A closure that drives the pair is one piece of work on it, however many steps that takes. It
  neither calls back into the kernel nor holds interrupts off inside. -/
  | withPair {α : Type} {body : Code (Kernel M H E) α} (closure : Plain body) :
      Orderly sets (Kernel.withPair body)
  | withoutInterrupts {α : Type} {body : Code (Kernel M H E) α} (closure : Orderly sets body) :
      Orderly sets (Kernel.withoutInterrupts body)

section States

variable {sets : Bool} {k k' : Kernel M H E}

theorem Calm.weaken (h : Calm false k) : Calm sets k := ⟨h.free, fun _ => h.quiet rfl⟩

theorem Calm.holds (h : Calm sets k) : (sharing sets).holds k :=
  ⟨fun hh => absurd (hh.symm.trans h.free) (by decide), h.quiet⟩

theorem Calm.others (h : Calm sets k) (ho : (sharing sets).others k k') : Calm sets k' := by
  rcases ho with rfl | ⟨hon, -, -, hfree⟩
  · exact h
  · exact ⟨hfree, fun hs => absurd (hon.symm.trans (h.quiet hs)) (by decide)⟩

/-- With interrupts held off nobody else acts. -/
theorem eq_of_others (h : k.interruptible = false) (ho : (sharing sets).others k k') : k' = k := by
  rcases ho with rfl | ⟨hon, -⟩
  · rfl
  · exact absurd (hon.symm.trans h) (by decide)

theorem Owned.holds (h : Owned k) : (sharing sets).holds k := ⟨fun _ => h.quiet, fun _ => h.quiet⟩

theorem keeps_done {value : α} {post : α → Kernel M H E → Prop} (h : Calm sets k)
    (hpost : ∀ t, Calm sets t → post value t) :
    (Code.done value).Keeps (sharing sets) post k :=
  fun _ ho => ⟨(h.others ho).holds, hpost _ (h.others ho)⟩

end States

section Operations

variable {sets : Bool} {k : Kernel M H E}

theorem plain_atomic {action : Action (Kernel M H E) α} (h : StaysSteady action) :
    Plain (Code.atomic action) := by
  refine .step ⟨fun _ => rfl, fun k => (h k).held, fun _ k => (h k).flag⟩ fun k => ?_
  cases action k with
  | ok value k' => exact .done value
  | error stop k' => exact .stop stop

/-- Plain code that owns the dispatcher gives it back before interrupts are let in. -/
theorem keeps_releasing {body : Code (Kernel M H E) α} (hbody : Plain body) (hk : Owned k) :
    (body.releasing release).Keeps (sharing sets) (fun _ => Calm false) k := by
  induction hbody generalizing k with
  | done value =>
    intro t ht
    obtain rfl := eq_of_others hk.quiet ht
    have hrel : Calm false t.release := ⟨rfl, fun _ => hk.quiet⟩
    refine ⟨hk.holds, rfl, ?_⟩
    intro t' ht'
    obtain rfl := eq_of_others (hrel.quiet rfl) ht'
    exact ⟨hrel.weaken.holds, hrel⟩
  | stop cause =>
    intro t ht
    obtain rfl := eq_of_others hk.quiet ht
    have hrel : Calm false t.release := ⟨rfl, fun _ => hk.quiet⟩
    refine ⟨hk.holds, rfl, ?_⟩
    intro t' ht'
    obtain rfl := eq_of_others (hrel.quiet rfl) ht'
    exact hrel.weaken.holds
  | step own rest ih =>
    intro t ht
    obtain rfl := eq_of_others hk.quiet ht
    exact ⟨hk.holds, own.ready_release t,
      ih t ⟨(own.held t).trans hk.taken, own.flag rfl t hk.quiet⟩⟩

/-- With interrupts held off, the dispatcher can be had at once. -/
theorem keeps_exclusively {body : Code (Kernel M H E) α} (hbody : Plain body)
    (hk : Calm false k) :
    (exclusively body).Keeps (sharing sets) (fun _ => Calm false) k := by
  have howned : Owned k.hold := ⟨rfl, hk.quiet rfl⟩
  refine Code.Keeps.bind fun t ht => ?_
  obtain rfl := eq_of_others (hk.quiet rfl) ht
  refine ⟨hk.weaken.holds, ?_, ?_⟩
  · show (!false) = !t.held
    rw [hk.free]
  · intro t' ht'
    obtain rfl := eq_of_others howned.quiet ht'
    exact ⟨howned.holds, keeps_releasing hbody howned⟩

theorem keeps_observe {view : Kernel M H E → α} {post : α → Kernel M H E → Prop}
    (hk : Calm sets k)
    (hpost : ∀ t, Calm sets t → (Code.done (view t)).Keeps (sharing sets) post t) :
    (Code.observe view).Keeps (sharing sets) post k := by
  intro t ht
  have hcalm := hk.others ht
  exact ⟨hcalm.holds, rfl, hpost t hcalm⟩

theorem keeps_change {act : Kernel M H E → Kernel M H E} {post : Unit → Kernel M H E → Prop}
    (hk : Calm sets k)
    (hpost : ∀ t, Calm sets t → (Code.done ()).Keeps (sharing sets) post (act t)) :
    (Code.change act).Keeps (sharing sets) post k := by
  intro t ht
  have hcalm := hk.others ht
  exact ⟨hcalm.holds, rfl, hpost t hcalm⟩

theorem keeps_done_quiet {value : α} {post : α → Kernel M H E → Prop} (hk : Calm false k)
    (hpost : post value k) : (Code.done value).Keeps (sharing sets) post k := by
  intro t ht
  obtain rfl := eq_of_others (hk.quiet rfl) ht
  exact ⟨hk.weaken.holds, hpost⟩

variable [PortSpace M] [LawfulFlag M]

/-- Holding interrupts off around code that needs it, and letting them in again only if they were
let in before. -/
theorem keeps_withoutInterrupts {body : Code (Kernel M H E) α}
    (hbody : ∀ k, Calm false k → body.Keeps (sharing sets) (fun _ => Calm sets) k)
    (hk : Calm sets k) :
    (withoutInterrupts body).Keeps (sharing sets) (fun _ => Calm sets) k := by
  refine Code.Keeps.bind (keeps_observe hk fun t ht => ?_)
  cases hon : t.interruptible with
  | false =>
    -- Interrupts were held off already, so nothing is changed on either side of the body.
    have hquiet : Calm false t := ⟨ht.free, fun _ => hon⟩
    have hview : Cpu.interruptsEnabled t = false := hon
    rw [hview]
    refine keeps_done_quiet hquiet (Code.Keeps.bind ((hbody t hquiet).weaken ?_))
    exact fun result t' ht' => keeps_done ht' fun _ h => h
  | true =>
    have hview : Cpu.interruptsEnabled t = true := hon
    have hsets : sets = true := by
      cases hs : sets with
      | false => exact absurd (hon.symm.trans (ht.quiet hs)) (by decide)
      | true => rfl
    subst hsets
    rw [hview]
    refine keeps_done ht fun t1 ht1 => Code.Keeps.bind (keeps_change ht1 fun t2 ht2 => ?_)
    have hquiet : Calm false (Cpu.disableInterrupts t2) :=
      ⟨ht2.free, fun _ => LawfulFlag.disabled t2.machine⟩
    refine keeps_done_quiet hquiet (Code.Keeps.bind ((hbody _ hquiet).weaken ?_))
    refine fun result t3 ht3 => Code.Keeps.bind (keeps_change ht3 fun t4 ht4 => ?_)
    have hback : Calm true (Cpu.enableInterrupts t4) := ⟨ht4.free, fun h => by cases h⟩
    exact keeps_done hback fun t5 ht5 => keeps_done ht5 fun _ h => h

/-- Orderly code never holds the dispatcher with interrupts let in, never waits for it, and is
done with it in the end. -/
theorem keeps_orderly {code : Code (Kernel M H E) α} (hcode : Orderly sets code)
    (hk : Calm sets k) : code.Keeps (sharing sets) (fun _ => Calm sets) k := by
  induction hcode generalizing k with
  | done value => exact keeps_done hk fun _ h => h
  | stop cause => exact fun t ht => (hk.others ht).holds
  | step own rest ih =>
    intro t ht
    have hcalm := hk.others ht
    exact ⟨hcalm.holds, own.ready_release t,
      ih t ⟨(own.held t).trans hcalm.free, fun hs => own.flag hs t (hcalm.quiet hs)⟩⟩
  | bind first rest ih1 ih2 =>
    exact Code.Keeps.bind ((ih1 hk).weaken fun value t ht => ih2 value ht)
  | register vector handler =>
    have hadd := plain_atomic (staysSteady_addHandler (M := M) (E := E) vector handler)
    exact keeps_withoutInterrupts
      (fun t ht => (keeps_exclusively hadd ht).weaken fun _ _ h => h.weaken) hk
  | unregister vector =>
    have hremove := plain_atomic (staysSteady_removeHandler (M := M) (H := H) (E := E) vector)
    exact keeps_withoutInterrupts
      (fun t ht => (keeps_exclusively hremove ht).weaken fun _ _ h => h.weaken) hk
  | withPair closure =>
    exact keeps_withoutInterrupts
      (fun t ht => (keeps_exclusively closure ht).weaken fun _ _ h => h.weaken) hk
  | withoutInterrupts closure ih =>
    exact keeps_withoutInterrupts (fun t ht => ih ht.weaken) hk

/-- A delivery that has the dispatcher. -/
theorem keeps_dispatchTaken {service : Service H (Kernel M H E)}
    (hservice : ∀ handler frame, Orderly false (service handler frame)) (frame : Frame)
    (hk : Owned k) :
    (dispatchTaken service frame).Keeps (sharing false) (fun _ => Calm false) k := by
  have hroute := plain_atomic (staysSteady_route (M := M) (H := H) (E := E) frame)
  refine Code.Keeps.bind ((keeps_releasing hroute hk).weaken fun route t ht => ?_)
  cases route with
  | halt report => exact keeps_done ht fun _ h => h
  | run handler line =>
    have hack := plain_atomic (staysSteady_acknowledge (M := M) (H := H) (E := E) line)
    have hserve : (serve service handler frame).Keeps (sharing false) (fun _ => Calm false) t := by
      cases handler with
      | none => exact keeps_done ht fun _ h => h
      | some handler => exact keeps_orderly (hservice handler frame) ht
    refine Code.Keeps.bind (hserve.weaken fun left t1 ht1 => ?_)
    refine Code.Keeps.bind ((keeps_exclusively hack ht1).weaken fun _ t2 ht2 => ?_)
    exact keeps_done ht2 fun _ h => h

theorem keeps_conclude (outcome : Disposition × Frame) (hk : Calm false k) :
    (conclude outcome).Keeps (sharing false) (fun _ => Calm false) k := by
  obtain ⟨disposition, frame⟩ := outcome
  cases disposition with
  | resume => exact keeps_done hk fun _ h => h
  | halt report =>
    refine Code.Keeps.bind (keeps_change hk fun t ht => ?_)
    have hhalt : Calm false (Cpu.halt t) :=
      ⟨ht.free, fun _ => LawfulFlag.halt t.machine (ht.quiet rfl)⟩
    exact keeps_done hhalt fun t1 ht1 t2 ht2 => (ht1.others ht2).holds

/-- A delivery that comes with the dispatcher free and interrupts held off. -/
theorem keeps_deliver {service : Service H (Kernel M H E)}
    (hservice : ∀ handler frame, Orderly false (service handler frame)) (frame : Frame)
    (hk : Calm false k) :
    (deliver service frame).Keeps (sharing false) (fun _ => Calm false) k := by
  have howned : Owned k.hold := ⟨rfl, hk.quiet rfl⟩
  refine Code.Keeps.bind (Code.Keeps.bind fun t ht => ?_)
  obtain rfl := eq_of_others (hk.quiet rfl) ht
  refine ⟨hk.holds, rfl, ?_⟩
  show (Code.done (!t.held)).Keeps _ _ _
  rw [hk.free]
  intro t' ht'
  obtain rfl := eq_of_others howned.quiet ht'
  refine ⟨howned.holds, ?_⟩
  exact (keeps_dispatchTaken hservice frame howned).weaken fun outcome t1 ht1 =>
    keeps_conclude outcome ht1

end Operations

end BringUp.Kernel
