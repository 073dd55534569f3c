import RasterGpu.Proofs.Device.Quiescence
import RasterGpu.Proofs.Device.Swap

/-!
# Drawing and filling exclude each other

The command stage looks at the components once in a cycle, after they have had theirs. A primitive
or a fill may end in the same cycle in which the next transaction is executed, so what has to be
shown is that nothing of it is left anywhere by then, not at the memory either.

* `Gpu.Exclusive` is what holds of a device between cycles: no primitive is held, the rasterizer and
  a fill are not at work together, and a rasterizer at rest has nothing at its memory ports. The
  gate of the command stage is part of it.
* `Film.ledger` is the ledger of a device since reset, and `Film.writes` are the writes that a cycle
  makes, with their authors.
* A write belongs to the primitive or the fill that was executed last, or it is a store of the
  memory engine (`Gpu.Fits.written`). So no write of a primitive or of a fill comes after a later
  transaction was executed, which `draws_exclude_fills` says of all devices and all films.
-/

namespace RasterGpu

/-- Whether a transaction keeps the command stage waiting: it kicks a primitive, or fills. -/
def Transaction.occupies (t : Transaction) : Bool :=
  t.isKick || t.isFill

/-- A store keeps nothing waiting. -/
theorem Transaction.occupies_of_isStore {t : Transaction} (h : t.isStore = true) :
    t.occupies = false := by
  rw [occupies, isKick_of_isStore h, Bool.false_or]
  cases t with
  | read address => rfl
  | write address data =>
    simp only [isStore, Bool.or_eq_true, beq_iff_eq] at h
    rcases h with rfl | rfl <;> rfl

namespace Ledger

variable {l : Ledger} {number : Nat} {kind kind' : Transaction → Bool}

/-- A transaction of a kind is of a wider kind. -/
theorem Is.imp (h : l.Is kind number) (hkind : ∀ t, kind t = true → kind' t = true) :
    l.Is kind' number := by
  obtain ⟨t, ht, hk⟩ := h
  exact ⟨t, ht, hkind t hk⟩

/-- A store does not occupy the device. -/
theorem Is.not_occupies (h : l.Is Transaction.isStore number) :
    ¬ l.Is Transaction.occupies number := by
  rintro ⟨t', ht', hoccupies⟩
  obtain ⟨t, ht, hstore⟩ := h
  obtain rfl := Option.some.inj (ht.symm.trans ht')
  rw [Transaction.occupies_of_isStore hstore] at hoccupies
  cases hoccupies

/-- The ledger after a cycle. -/
def next (l : Ledger) (g : Gpu) : Ledger :=
  Chronicle.entered { feed := { device := g }, ledger := l }

/-- A cycle enters the transaction that it executes. -/
theorem executed_next (l : Ledger) (g : Gpu) :
    (l.next g).executed = l.executed ++ g.executed?.toList :=
  (Chronicle.entered_spec { feed := { device := g }, ledger := l }).1

/-- What is executed in a cycle stays where it is in the ledger. -/
theorem executed_foldl_next (l : Ledger) (mid : List Gpu) :
    l.executed <+: (mid.foldl next l).executed := by
  induction mid generalizing l with
  | nil => exact List.prefix_rfl
  | cons g mid ih =>
    refine List.IsPrefix.trans ?_ (ih (l.next g))
    rw [executed_next]
    exact List.prefix_append _ _

/-- A write belongs to the primitive or the fill that was executed last, or is a store of the memory
engine. -/
def Recent (l : Ledger) (w : Write) : Prop :=
  l.Is Transaction.occupies w.author ∧ w.author + 1 = l.executed.length
    ∨ w.client = .engine ∧ l.Is Transaction.isStore w.author

/-- A primitive or a fill writes only while it is the last transaction. -/
theorem Recent.author (h : l.Recent w) (hw : l.Is Transaction.occupies w.author) :
    w.author + 1 = l.executed.length := by
  rcases h with ⟨-, hlast⟩ | ⟨-, hstore⟩
  · exact hlast
  · exact absurd hw hstore.not_occupies

end Ledger

/-! ## The writes of a cycle -/

namespace Gpu

variable {g : Gpu} {l : Ledger} {config : Config}

/-- **Whose writes a cycle makes.** A rasterizer that writes is busy, with the primitive of the last
transaction, and so it is with a fill. -/
theorem Fits.written (h : g.Fits l) (ha : Apart g.rasterizer g.engine g.arbiter) :
    ∀ w ∈ l.written g.engine.queue.toList.length g.arbiter.performed?, l.Recent w := by
  obtain ⟨u, h⟩ := h
  have hs := Arbiter.tick_portStep ha.sound.wellFormed g.memory
  generalize (g.arbiter.tick g.memory).1.port = p', (g.arbiter.tick g.memory).2 = m',
    g.arbiter.performed? = performed at hs
  cases hs with
  | wait => exact fun w hw => absurd hw List.not_mem_nil
  | grant hp => exact fun w hw => absurd hw List.not_mem_nil
  | @perform c request hp =>
    cases request with
    | read address length => exact fun w hw => absurd hw List.not_mem_nil
    | write address data =>
      intro w hw
      obtain rfl := List.mem_singleton.1 hw
      have hdrawing (hc : c.isDrawing = true) :
          l.Recent ⟨l.author g.engine.queue.toList.length c, c, address, data⟩ := by
        have hbusy := ha.isBusy_of_granted hc hp
        have hauthor : l.author g.engine.queue.toList.length c = l.drawn := if_pos hc
        rw [hauthor]
        refine .inl ⟨(h.drawing hbusy).1.imp fun t ht => ?_, h.current.1 hbusy⟩
        rw [Transaction.occupies, ht, Bool.true_or]
      cases c with
      | display =>
        have hread : (Request.write address data).isRead = true :=
          ha.scanout _ (by rw [hp]; exact List.mem_singleton_self _)
        cases hread
      | color => exact hdrawing rfl
      | depth => exact hdrawing rfl
      | engine =>
        obtain ⟨x, hx, hkind, hauthor⟩ := h.granted (v := g.engine.view g.arbiter) hp
        have hauthor' : l.author g.engine.queue.toList.length .engine = x.1 := hauthor
        rw [hauthor']
        rcases hkind with hfill | hstore
        · obtain ⟨hfills, hlast⟩ := h.current.2 x hx hfill
          refine .inl ⟨hfills.imp fun t ht => ?_, hlast⟩
          rw [Transaction.occupies, ht, Bool.or_true]
        · exact .inr ⟨rfl, (h.numbered x (h.suffix.subset hx)).2 hstore⟩

/-! ## Devices between cycles -/

/-- Drawing and filling exclude each other in a device that a host may find. -/
structure Exclusive (g : Gpu) : Prop where
  /-- No primitive is held. -/
  held : g.held = none
  /-- The rasterizer is at rest while a fill waits or is under way. -/
  apart : g.engine.isFilling = true → g.rasterizer.isBusy = false
  /-- While it is at rest it has no request at the memory, pending or granted, and no response that
  waits. -/
  ports : g.rasterizer.isBusy = false → ∀ c, c.isDrawing = true →
    g.arbiter.isPending c = false ∧ g.arbiter.isGranted c = false ∧ g.arbiter.response? c = none
  /-- The next cycle executes no transaction while the rasterizer is busy or a fill waits or is
  under way when it comes to that. -/
  gate : ∀ t ∈ g.executed?,
    g.settled.rasterizer.isBusy = false ∧ g.settled.engine.isFilling = false

/-- A transaction is executed by an open device only. -/
theorem open_of_executed? {t : Transaction} (hheld : g.held = none) (ht : t ∈ g.executed?) :
    g.settled.Open := by
  have hp := passes hheld
  rw [Option.mem_def.1 ht] at hp
  cases hp with
  | execute hq ho hx => exact ho

/-- An orderly device draws or fills, but not both. -/
theorem Orderly.exclusive (h : g.Orderly config) : g.Exclusive where
  held := h.held
  apart hfilling := by
    cases hbusy : g.rasterizer.isBusy with
    | false => rfl
    | true =>
      rw [h.apart.exclusive hbusy] at hfilling
      cases hfilling
  ports hidle c hc := by
    have hserved := h.apart.sound.served c hc
    rw [Rasterizer.work_of_idle hidle] at hserved
    exact Arbiter.at_free h.apart.sound.wellFormed hserved.eq_free
  gate t ht := by
    have ho := open_of_executed? h.held ht
    exact ⟨ho.idle, ho.noFill⟩

end Gpu

/-! ## Devices and their past -/

namespace Film

variable {past : List Gpu} {g : Gpu} {config : Config}

/-- The ledger after cycles since reset. -/
def ledger (past : List Gpu) : Ledger :=
  past.foldl Ledger.next {}

/-- The writes that a cycle makes after the cycles `past`. -/
def writes (past : List Gpu) (g : Gpu) : List Write :=
  (ledger past).written g.engine.queue.toList.length g.arbiter.performed?

/-- A cycle is entered last. -/
theorem ledger_concat (past : List Gpu) (g : Gpu) :
    ledger (past ++ [g]) = (ledger past).next g := by
  rw [ledger, List.foldl_concat]
  rfl

/-- What is known of a device and the ledger of its past. -/
structure Booked (config : Config) (past : List Gpu) (g : Gpu) : Prop where
  /-- The device is orderly. -/
  orderly : g.Orderly config
  /-- The ledger fits. -/
  fits : g.Fits (ledger past)

/-- A device at rest has no past. -/
theorem booked_of_rest (ho : g.Orderly config) (hr : g.rasterizer.isBusy = false)
    (hv : g.engine.view g.arbiter = ⟨[], none, .free⟩) : Booked config [] g := by
  refine ⟨ho, [], ?_⟩
  rw [hr, hv]
  exact Ledger.balanced_empty

/-- The memory changes by the writes of a cycle, and by nothing else. -/
theorem Booked.memory (h : Booked config past g) :
    g.next.memory = Write.replay g.memory (writes past g) := by
  have hw := h.orderly.apart.sound.wellFormed
  obtain ⟨-, -, -, hmemory⟩ := (h.fits.settled h.orderly.apart).next
    h.orderly.apart.settled h.orderly.held
  rw [hmemory]
  exact (ledger past).replay_record (g.engine.view g.arbiter) hw g.memory

/-- **A cycle.** -/
theorem Booked.tick (h : Booked config past g) : Booked config (past ++ [g]) g.next := by
  obtain ⟨hfits, -⟩ := (h.fits.settled h.orderly.apart).next h.orderly.apart.settled h.orderly.held
  refine ⟨h.orderly.next, ?_⟩
  rw [ledger_concat]
  exact hfits

/-- Books are kept at all times. -/
theorem booked (config : Config) (acts : List Act) :
    ((start config).run acts).Always (Booked config) := by
  refine always_run ?_ (fun past g h => h.tick) (fun past g commands responses memory h => ?_)
    (fun past g h => ?_) acts
  · exact booked_of_rest (Gpu.Reachable.start _).orderly rfl rfl
  · exact ⟨{ h.orderly with }, h.fits⟩
  · exact booked_of_rest h.orderly.reset rfl rfl

/-- How the writes that a cycle of `g` makes after the cycles `past` are ordered. -/
structure Ordered (past : List Gpu) (g : Gpu) : Prop where
  /-- The memory changes by these writes, and by nothing else. -/
  memory : g.next.memory = Write.replay g.memory (writes past g)
  /-- They are of the last transaction, which kicks a primitive or fills, or are stores. -/
  recent : ∀ w ∈ writes past g, (ledger past).Recent w
  /-- When a cycle before has executed a transaction, no primitive and no fill of an earlier one
  writes any more. -/
  after : ∀ before c mid, past = before ++ c :: mid → ∀ t ∈ c.executed?,
    (ledger past).executed[(ledger before).executed.length]? = some t
      ∧ ∀ w ∈ writes past g, (ledger past).Is Transaction.occupies w.author →
          (ledger before).executed.length ≤ w.author

/-- A transaction that a cycle has executed is in the ledger from then on. -/
theorem executed_ledger (before mid : List Gpu) {c : Gpu} {t : Transaction}
    (ht : t ∈ c.executed?) :
    (ledger before).executed ++ [t] <+: (ledger (before ++ c :: mid)).executed := by
  have hledger : ledger (before ++ c :: mid) = mid.foldl Ledger.next ((ledger before).next c) :=
    List.foldl_append
  have hnext := ((ledger before).next c).executed_foldl_next mid
  rw [Ledger.executed_next, Option.mem_def.1 ht] at hnext
  rw [hledger]
  exact hnext

/-- Whose turn it is to write follows from the books. -/
theorem Booked.ordered (h : Booked config past g) : Ordered past g := by
  have hrecent := h.fits.written h.orderly.apart
  refine ⟨h.memory, hrecent, fun before c mid hpast t ht => ?_⟩
  subst hpast
  obtain ⟨rest, hrest⟩ := executed_ledger before mid ht
  refine ⟨?_, fun w hw hoccupies => ?_⟩
  · rw [← hrest, List.append_assoc, List.getElem?_append_right (Nat.le_refl _), Nat.sub_self]
    rfl
  · have hlast := (hrecent w hw).author hoccupies
    have hlength := congrArg List.length hrest
    simp only [List.length_append, List.length_singleton] at hlength
    omega

end Film

/-- **Drawing and filling exclude each other.** Whatever a host has done to a device, no primitive
is held, the rasterizer is at rest while a fill waits or is under way, it has nothing at its memory
ports while it is at rest, and no transaction is executed while it is busy or a fill is not done.
All that changes the memory in a cycle are the writes of the last transaction, which kicks a
primitive or fills, and stores of the memory engine. So when a transaction has been executed no
primitive and no fill of an earlier one writes any more. -/
theorem draws_exclude_fills (config : Config) :
    (∀ g : Gpu, g.Reachable config → g.Exclusive)
      ∧ ∀ acts, ((Film.start config).run acts).Always Film.Ordered := by
  refine ⟨fun g hg => hg.orderly.exclusive, fun acts past g rest hm => ?_⟩
  exact (Film.booked config acts past g rest hm).ordered

/-- A pixel is drawn and then filled over. While the fill is under way the rasterizer is at rest,
and each write has the number of its transaction. -/
theorem draws_exclude_fills_over_pixel :
    let config : Config :=
      { bootSequence := false, memoryWords := 16, memoryLatency := 1, scanoutCapacity := 1
        scanoutBurst := 1 }
    let stream : List Transaction :=
      [.write Register.color.address 0xFFFFFFFF, .write Register.renderMode.address 0x10,
        .write Register.kickRectangle.address 0x100010, .write Register.fill.address 0x4ABCD0000,
        .write Register.color.address 0]
    let commands := stream.foldl (fun q t => (q.offer t).1) (Gpu.commandQueue config)
    let film := (Film.start config).run
      (.host commands .empty (.zeroed 16 1) :: .replicate 30 .tick)
    let g := ((Audit.start config (.zeroed 16 1)).run
      (stream.map .offer ++ .replicate 14 .tick)).device
    g.engine.isFilling = true ∧ g.Exclusive
      ∧ (Film.ledger film.cycles).writes = [⟨2, .color, 0, [0xFFFF]⟩,
          ⟨3, .engine, 0, [0xABCD, 0xABCD, 0xABCD, 0xABCD]⟩]
      ∧ film.Always Film.Ordered := by
  intro config stream commands film g
  have hfilling : g.engine.isFilling = true := by decide +kernel
  have hwrites : (Film.ledger film.cycles).writes = [⟨2, .color, 0, [0xFFFF]⟩,
      ⟨3, .engine, 0, [0xABCD, 0xABCD, 0xABCD, 0xABCD]⟩] := by decide +kernel
  obtain ⟨hexclusive, hordered⟩ := draws_exclude_fills config
  exact ⟨hfilling, hexclusive g (Gpu.reachable_run config _ _), hwrites, hordered _⟩

end RasterGpu
