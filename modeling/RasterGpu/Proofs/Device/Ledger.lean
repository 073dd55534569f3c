import RasterGpu.Proofs.Device.Apart
import RasterGpu.Proofs.Registers.Assembly

/-!
# Who wrote what

A ledger is kept beside the device. It numbers the transactions in the order in which they are
executed, and says of each write to memory which of them caused it.

* `Ledger` holds the transactions that were executed, the commands that each gave to the memory
  engine, the number of the primitive that the rasterizer took last, and the writes, each a `Write`
  with the number of its author.
* `Ledger.record` enters what the arbiter performs in a cycle, `Ledger.enter` a transaction that is
  executed.
* `EngineView.Carries` lists the commands that the engine has not finished, the one under way first.
* `Ledger.Balanced` is the invariant. Its heart is `order`: a write that follows one of a later
  transaction is a store, and the one it follows is part of a primitive.

`overtaken` marks the cycles that matter: a primitive writes while the engine still has a store.
-/

namespace RasterGpu

/-! ## Transactions that write -/

namespace Transaction

/-- Whether the transaction has the memory engine store a value: through the memory window, or as a
timestamp. -/
def isStore : Transaction → Bool
  | write address _ =>
    address == Register.windowData.address || address == Register.timestamp.address
  | read _ => false

/-- Whether the transaction has the memory engine fill a run of memory. -/
def isFill : Transaction → Bool
  | write address _ => address == Register.fill.address
  | read _ => false

/-- A store kicks nothing. -/
theorem isKick_of_isStore {t : Transaction} (h : t.isStore = true) : t.isKick = false := by
  cases t with
  | read address => rfl
  | write address data =>
    simp only [isStore, Bool.or_eq_true, beq_iff_eq] at h
    rcases h with rfl | rfl <;> rfl

end Transaction

/-- Stores come from transactions that store, and fills from transactions that fill. -/
theorem RegisterFile.kind_of_mem_commands {regs : RegisterFile} {t : Transaction}
    {c : MemoryCommand} (hc : c ∈ (regs.process t).2.commands) :
    (c.isStore = true → t.isStore = true) ∧ (c.isFill = true → t.isFill = true) := by
  cases t with
  | write address data =>
    unfold process at hc
    dsimp only at hc
    split at hc
    · rename_i r hr
      have haddress := Register.address_of_ofAddress? hr
      cases r
      case windowData =>
        subst haddress
        simp only [writeRegister, List.mem_cons, List.not_mem_nil, or_false] at hc
        rcases hc with rfl | rfl <;> exact ⟨fun _ => rfl, fun hf => by (cases hf)⟩
      case timestamp =>
        subst haddress
        obtain rfl := List.mem_singleton.1 hc
        exact ⟨fun _ => rfl, fun hf => by (cases hf)⟩
      case fill =>
        subst haddress
        obtain rfl := List.mem_singleton.1 hc
        exact ⟨fun hs => by (cases hs), fun _ => rfl⟩
      case windowAddress =>
        obtain rfl := List.mem_singleton.1 hc
        exact ⟨fun hs => by (cases hs), fun hf => by (cases hf)⟩
      all_goals exact absurd hc List.not_mem_nil
    · exact absurd hc List.not_mem_nil
  | read address =>
    unfold process at hc
    dsimp only at hc
    split at hc
    · obtain rfl := List.mem_singleton.1 hc
      exact ⟨fun hs => by (cases hs), fun hf => by (cases hf)⟩
    · exact absurd hc List.not_mem_nil

/-! ## The ledger -/

/-- A write to memory, and the number of the transaction that caused it. -/
structure Write where
  /-- The number of the transaction. -/
  author : Nat
  /-- The port. -/
  client : Client
  /-- Address of the first word. -/
  address : Nat
  /-- The words. -/
  data : List UInt16
  deriving DecidableEq, Repr

/-- What has been executed and written. -/
structure Ledger where
  /-- The transactions executed. The number of a transaction is its place. -/
  executed : List Transaction := []
  /-- The commands given to the memory engine, each with the number of its transaction. -/
  given : List (Nat × MemoryCommand) := []
  /-- The number of the transaction whose primitive the rasterizer took last. -/
  drawn : Nat := 0
  /-- The writes, oldest first. -/
  writes : List Write := []
  /-- A primitive has written while the engine had a store. -/
  overtaken : Bool := false

namespace Ledger

/-- The transaction with a number is of a kind. -/
def Is (l : Ledger) (kind : Transaction → Bool) (number : Nat) : Prop :=
  ∃ t, l.executed[number]? = some t ∧ kind t = true

/-- The number of the transaction on whose behalf a client uses the memory, when `waiting` commands
are in the engine's queue: for the rasterizer that of its primitive, for the engine that of the
command it has started last. -/
def author (l : Ledger) (waiting : Nat) (c : Client) : Nat :=
  if c.isDrawing then
    l.drawn
  else
    ((l.given.take (l.given.length - waiting)).getLast?.map Prod.fst).getD 0

/-- The write that the arbiter performs, if it performs one. -/
def written (l : Ledger) (waiting : Nat) : Option (Client × Request) → List Write
  | some (c, .write address data) => [⟨l.author waiting c, c, address, data⟩]
  | some (_, .read _ _) | none => []

end Ledger

/-- Whether the engine has a store that was not performed. -/
def EngineView.hasStore (v : EngineView) : Bool :=
  v.queue.any MemoryCommand.isStore || v.fill.isNone && v.port.requests.any fun r => !r.isRead

namespace Ledger

/-- Enters what the arbiter performs in a cycle. -/
def record (l : Ledger) (v : EngineView) (performed : Option (Client × Request)) : Ledger :=
  let written := l.written v.queue.length performed
  { l with
    writes := l.writes ++ written
    overtaken := l.overtaken || written.any (·.client.isDrawing) && v.hasStore }

/-- Enters a transaction that is executed, the commands that it gives to the engine, and whether the
rasterizer takes a primitive. -/
def enter (l : Ledger) (t : Transaction) (commands : List MemoryCommand) (kicked : Bool) : Ledger :=
  { l with
    executed := l.executed ++ [t]
    given := l.given ++ commands.map (l.executed.length, ·)
    drawn := if kicked then l.executed.length else l.drawn }

end Ledger

/-! ## Commands that are not finished -/

/-- The commands that the engine has not finished, the one under way first. -/
inductive EngineView.Carries : EngineView → List MemoryCommand → Prop where
  /-- None is under way. -/
  | rest {queue : List MemoryCommand} {port : Port} (h : port.requests = []) :
    Carries ⟨queue, none, port⟩ queue
  /-- One that makes one request is under way. -/
  | request {c : MemoryCommand} {queue : List MemoryCommand} {port : Port} {request : Request}
    (hc : c.request? = some request) (h : port.requests = [request]) :
    Carries ⟨queue, none, port⟩ (c :: queue)
  /-- A fill is under way. -/
  | fill {f : Fill} {queue : List MemoryCommand} {progress : FillProgress} {port : Port} :
    Carries ⟨queue, some progress, port⟩ (.fill f :: queue)

namespace EngineView

variable {v v' : EngineView} {commands : List MemoryCommand}

/-- An unfinished store shows in the view. -/
theorem Carries.hasStore (h : v.Carries commands) :
    v.hasStore = commands.any MemoryCommand.isStore := by
  cases h with
  | rest hr => simp [EngineView.hasStore, hr]
  | request hc hr =>
    simp [EngineView.hasStore, hr, MemoryCommand.isStore_of_request? hc, Bool.or_comm]
  | fill => simp [EngineView.hasStore, MemoryCommand.isStore]

/-- Without a fill in the view no unfinished command is one. -/
theorem Carries.isFill (h : v.Carries commands) (hf : v.isFilling = false) :
    ∀ c ∈ commands, c.isFill = false := by
  unfold EngineView.isFilling at hf
  rw [Bool.or_eq_false_iff] at hf
  have hqueue : ∀ c ∈ v.queue, c.isFill = false := fun c hc =>
    Bool.eq_false_iff.2 (List.any_eq_false.1 hf.2 c hc)
  cases h with
  | rest hr => exact hqueue
  | request hc hr =>
    intro c hmem
    rcases List.mem_cons.1 hmem with rfl | hmem
    · cases c <;> first | rfl | cases hc
    · exact hqueue c hmem
  | fill => exact absurd hf.1 (by simp)

/-- Only the request at the port counts. -/
theorem Carries.port (h : v.Carries commands) {q : Port} (hq : q.requests = v.port.requests) :
    { v with port := q }.Carries commands := by
  cases h with
  | rest hr => exact .rest (hq.trans hr)
  | request hc hr => exact .request hc (hq.trans hr)
  | fill => exact .fill

/-- Commands that are given wait behind those that are not finished. -/
theorem Carries.append (h : v.Carries commands) (more : List MemoryCommand) :
    { v with queue := v.queue ++ more }.Carries (commands ++ more) := by
  cases h with
  | rest hr => exact .rest hr
  | request hc hr => exact .request hc hr
  | fill => exact .fill

/-- A move of the engine finishes no command but a fill. -/
theorem Move.carries (h : v.Move v') (hc : v.Carries commands) :
    v'.Carries commands ∨ ∃ f rest, commands = .fill f :: rest ∧ v'.Carries rest := by
  cases h with
  | collect => exact .inl (hc.port rfl)
  | finish hr =>
    cases hc with
    | fill => exact .inr ⟨_, _, rfl, .rest rfl⟩
  | burst hr =>
    cases hc with
    | fill => exact .inl .fill
  | issue hr =>
    cases hc with
    | rest _ => exact .inl (.request hr rfl)
    | request _ hp => cases hp
  | fill hr =>
    cases hc with
    | rest _ => exact .inl .fill
    | request _ hp => cases hp
  | skip hr =>
    cases hc with
    | rest _ => exact .inr ⟨_, _, rfl, .rest rfl⟩
    | request _ hp => cases hp

end EngineView

/-! ## The invariant -/

namespace Ledger

variable {l : Ledger} {busy : Bool} {v v' : EngineView} {u rest : List (Nat × MemoryCommand)}

/-- A write of a later transaction comes before one of an earlier, which was made since or is a
store among the commands that are not finished. -/
def Overtakes (l : Ledger) (unfinished : List (Nat × MemoryCommand)) : Prop :=
  ∃ before w after, l.writes = before ++ w :: after ∧ ∃ number < w.author,
    (∃ w' ∈ after, w'.author = number) ∨ ∃ x ∈ unfinished, x.2.isStore = true ∧ x.1 = number

/-- The ledger fits a device whose rasterizer is busy or not, and whose engine has the commands
`unfinished`. -/
structure Balanced (l : Ledger) (busy : Bool) (v : EngineView)
    (unfinished : List (Nat × MemoryCommand)) : Prop where
  /-- The engine has these commands. -/
  carries : v.Carries (unfinished.map Prod.snd)
  /-- They were given last. -/
  suffix : unfinished <:+ l.given
  /-- Commands are given in order. -/
  sorted : l.given.Pairwise fun x y => x.1 ≤ y.1
  /-- They come from transactions that were executed, stores from transactions that store. -/
  numbered : ∀ x ∈ l.given,
    x.1 < l.executed.length ∧ (x.2.isStore = true → l.Is Transaction.isStore x.1)
  /-- Primitives come from transactions that were executed. -/
  drawn_le : l.drawn ≤ l.executed.length
  /-- A primitive that is being drawn comes from a kick after all commands. -/
  drawing : busy = true → l.Is Transaction.isKick l.drawn ∧ ∀ x ∈ l.given, x.1 ≤ l.drawn
  /-- A fill that is not finished was given after the last primitive. -/
  fills : ∀ x ∈ unfinished, x.2.isFill = true → l.drawn ≤ x.1
  /-- What is being drawn or filled comes from the transaction that was executed last. -/
  current : (busy = true → l.drawn + 1 = l.executed.length)
    ∧ ∀ x ∈ unfinished, x.2.isFill = true →
      l.Is Transaction.isFill x.1 ∧ x.1 + 1 = l.executed.length
  /-- The rasterizer has written for primitives up to the last. -/
  drawings : ∀ w ∈ l.writes, w.client.isDrawing = true →
    w.author ≤ l.drawn ∧ l.Is Transaction.isKick w.author
  /-- The engine has written for commands up to the unfinished ones. -/
  others : ∀ w ∈ l.writes, w.client.isDrawing = false →
    (∃ x ∈ l.given, x.1 = w.author) ∧ ∀ x ∈ unfinished, w.author ≤ x.1
  /-- Only a store follows a write of a later transaction, and that is part of a primitive. -/
  order : l.writes.Pairwise fun w w' =>
    w.author ≤ w'.author ∨ l.Is Transaction.isKick w.author ∧ l.Is Transaction.isStore w'.author
  /-- If no store was overtaken, writes are in order and so are those to come. -/
  inOrder : l.overtaken = false → l.writes.Pairwise (fun w w' => w.author ≤ w'.author) ∧
    ∀ w ∈ l.writes, w.client.isDrawing = true →
      ∀ x ∈ unfinished, x.2.isStore = true → w.author ≤ x.1
  /-- If a store was overtaken, writes are not in order or will not be. -/
  overtakes : l.overtaken = true → l.Overtakes unfinished

/-- The empty ledger fits a device at rest. -/
theorem balanced_empty : Balanced {} false ⟨[], none, .free⟩ [] where
  carries := .rest rfl
  suffix := List.suffix_rfl
  sorted := .nil
  numbered _ hx := absurd hx List.not_mem_nil
  drawn_le := Nat.le_refl _
  drawing hb := by cases hb
  fills _ hx := absurd hx List.not_mem_nil
  current := ⟨fun hb => by (cases hb), fun _ hx => absurd hx List.not_mem_nil⟩
  drawings _ hw := absurd hw List.not_mem_nil
  others _ hw := absurd hw List.not_mem_nil
  order := .nil
  inOrder _ := ⟨.nil, fun _ hw => absurd hw List.not_mem_nil⟩
  overtakes ho := by cases ho

/-- Only the request at the port counts. -/
theorem Balanced.port (h : l.Balanced busy v u) {q : Port} (hq : q.requests = v.port.requests) :
    l.Balanced busy { v with port := q } u :=
  { h with carries := h.carries.port hq }

/-- The rasterizer may have ended its primitive. -/
theorem Balanced.rasterizer (h : l.Balanced busy v u) {busy' : Bool}
    (hb : busy' = true → busy = true) : l.Balanced busy' v u :=
  { h with
    drawing := fun hb' => h.drawing (hb hb')
    current := ⟨fun hb' => h.current.1 (hb hb'), h.current.2⟩ }

/-- The engine has finished a command. -/
theorem Balanced.drop {x : Nat × MemoryCommand} (h : l.Balanced busy v (x :: rest))
    (hc : v'.Carries (rest.map Prod.snd)) (ho : l.overtaken = true → l.Overtakes rest) :
    l.Balanced busy v' rest :=
  { h with
    carries := hc
    suffix := (List.suffix_cons x rest).trans h.suffix
    fills := fun y hy => h.fills y (List.mem_cons_of_mem _ hy)
    current := ⟨h.current.1, fun y hy => h.current.2 y (List.mem_cons_of_mem _ hy)⟩
    others := fun w hw hd =>
      ⟨(h.others w hw hd).1, fun y hy => (h.others w hw hd).2 y (List.mem_cons_of_mem _ hy)⟩
    inOrder := fun ho =>
      ⟨(h.inOrder ho).1, fun w hw hd y hy => (h.inOrder ho).2 w hw hd y (List.mem_cons_of_mem _ hy)⟩
    overtakes := ho }

/-- A command that is not a store was not overtaken. -/
theorem Overtakes.drop {x : Nat × MemoryCommand} (h : l.Overtakes (x :: rest))
    (hx : x.2.isStore = false) : l.Overtakes rest := by
  obtain ⟨before, w, after, hwrites, number, hlt, hsome⟩ := h
  refine ⟨before, w, after, hwrites, number, hlt, hsome.imp_right ?_⟩
  rintro ⟨y, hy, hstore, hnumber⟩
  rcases List.mem_cons.1 hy with rfl | hy
  · rw [hx] at hstore
    cases hstore
  · exact ⟨y, hy, hstore, hnumber⟩

/-- A write that is made does not undo what was overtaken. -/
theorem Overtakes.append (h : l.Overtakes u) (w : Write) :
    { l with writes := l.writes ++ [w] }.Overtakes u := by
  obtain ⟨before, w', after, hwrites, number, hlt, hsome⟩ := h
  refine ⟨before, w', after ++ [w], ?_, number, hlt, ?_⟩
  · rw [hwrites, List.append_assoc, List.cons_append]
  · exact hsome.imp_left fun ⟨y, hy, hnumber⟩ => ⟨y, List.mem_append_left _ hy, hnumber⟩

/-- A move of the engine. -/
theorem Balanced.move (h : l.Balanced busy v u) (hm : v.Move v') :
    ∃ u, l.Balanced busy v' u := by
  rcases hm.carries h.carries with hc | ⟨f, commands, hu, hc⟩
  · exact ⟨u, { h with carries := hc }⟩
  · cases u with
    | nil => cases hu
    | cons x rest =>
      rw [List.map_cons, List.cons.injEq] at hu
      obtain ⟨hx, rfl⟩ := hu
      exact ⟨rest, h.drop hc fun ho => (h.overtakes ho).drop (by rw [hx]; rfl)⟩

/-- Moves of the engine. -/
theorem Balanced.moves (h : l.Balanced busy v u) (hm : v.Moves v') :
    ∃ u, l.Balanced busy v' u := by
  induction hm with
  | refl => exact ⟨u, h⟩
  | tail _ hm ih =>
    obtain ⟨u', h'⟩ := ih
    exact h'.move hm

/-! ## Writes -/

/-- Entering a write of the rasterizer. -/
theorem record_drawing (l : Ledger) (v : EngineView) {c : Client} (hc : c.isDrawing = true)
    (address : Nat) (data : List UInt16) :
    l.record v (some (c, .write address data))
      = { l with
          writes := l.writes ++ [⟨l.drawn, c, address, data⟩]
          overtaken := l.overtaken || v.hasStore } := by
  simp [record, written, author, hc]

/-- What is to be shown when a write is made. -/
theorem Balanced.append {w : Write} {overtaken : Bool} (h : l.Balanced busy v u)
    (hdrawing : w.client.isDrawing = true →
      w.author ≤ l.drawn ∧ l.Is Transaction.isKick w.author)
    (hother : w.client.isDrawing = false →
      (∃ x ∈ l.given, x.1 = w.author) ∧ ∀ x ∈ u, w.author ≤ x.1)
    (horder : ∀ w' ∈ l.writes, w'.author ≤ w.author
      ∨ l.Is Transaction.isKick w'.author ∧ l.Is Transaction.isStore w.author)
    (hin : overtaken = false → l.overtaken = false ∧ (∀ w' ∈ l.writes, w'.author ≤ w.author)
      ∧ (w.client.isDrawing = true → ∀ x ∈ u, x.2.isStore = true → w.author ≤ x.1))
    (hover : overtaken = true → { l with writes := l.writes ++ [w] }.Overtakes u) :
    { l with writes := l.writes ++ [w], overtaken }.Balanced busy v u where
  carries := h.carries
  suffix := h.suffix
  sorted := h.sorted
  numbered := h.numbered
  drawn_le := h.drawn_le
  drawing := h.drawing
  fills := h.fills
  current := h.current
  drawings w' hw' hd := by
    rcases List.mem_append.1 hw' with hw' | hw'
    · exact h.drawings w' hw' hd
    · obtain rfl := List.mem_singleton.1 hw'
      exact hdrawing hd
  others w' hw' hd := by
    rcases List.mem_append.1 hw' with hw' | hw'
    · exact h.others w' hw' hd
    · obtain rfl := List.mem_singleton.1 hw'
      exact hother hd
  order := by
    refine List.pairwise_append.2 ⟨h.order, List.pairwise_singleton _ _, fun w' hw' y hy => ?_⟩
    obtain rfl := List.mem_singleton.1 hy
    exact horder w' hw'
  inOrder ho := by
    obtain ⟨ho, hlast, hstores⟩ := hin ho
    refine ⟨List.pairwise_append.2 ⟨(h.inOrder ho).1, List.pairwise_singleton _ _,
      fun w' hw' y hy => ?_⟩, fun w' hw' hd => ?_⟩
    · obtain rfl := List.mem_singleton.1 hy
      exact hlast w' hw'
    · rcases List.mem_append.1 hw' with hw' | hw'
      · exact (h.inOrder ho).2 w' hw' hd
      · obtain rfl := List.mem_singleton.1 hw'
        exact hstores hd
  overtakes := hover

/-- A store that the engine has while a primitive is drawn comes from an earlier transaction. -/
theorem Balanced.lt_drawn (h : l.Balanced true v u) {x : Nat × MemoryCommand} (hx : x ∈ u)
    (hs : x.2.isStore = true) : x.1 < l.drawn := by
  obtain ⟨⟨t', ht', htkick⟩, hgiven⟩ := h.drawing rfl
  have hmem : x ∈ l.given := h.suffix.subset hx
  obtain ⟨t, ht, htstore⟩ := (h.numbered x hmem).2 hs
  refine Nat.lt_of_le_of_ne (hgiven x hmem) fun heq => ?_
  -- one transaction would both store and kick
  rw [heq, ht'] at ht
  obtain rfl := Option.some.inj ht
  rw [Transaction.isKick_of_isStore htstore] at htkick
  cases htkick

/-- A write of the rasterizer follows writes of no later transaction. It overtakes every store that
the engine has. -/
theorem Balanced.record_drawing (h : l.Balanced true v u) {c : Client} (hc : c.isDrawing = true)
    (address : Nat) (data : List UInt16) :
    (l.record v (some (c, .write address data))).Balanced true v u := by
  obtain ⟨hkick, hgiven⟩ := h.drawing rfl
  have hlast : ∀ w ∈ l.writes, w.author ≤ l.drawn := by
    intro w hw
    cases hd : w.client.isDrawing with
    | true => exact (h.drawings w hw hd).1
    | false =>
      obtain ⟨⟨x, hx, hauthor⟩, -⟩ := h.others w hw hd
      exact hauthor ▸ hgiven x hx
  rw [l.record_drawing v hc]
  refine h.append (fun _ => ⟨Nat.le_refl _, hkick⟩) (fun hd => ?_) (fun w hw => .inl (hlast w hw))
    (fun ho => ?_) (fun ho => ?_)
  · rw [hc] at hd
    cases hd
  · obtain ⟨ho, hstore⟩ := Bool.or_eq_false_iff.1 ho
    rw [h.carries.hasStore, List.any_eq_false] at hstore
    exact ⟨ho, hlast, fun _ x hx hs => absurd hs (hstore x.2 (List.mem_map_of_mem hx))⟩
  · rcases Bool.or_eq_true_iff.1 ho with ho | hstore
    · exact (h.overtakes ho).append _
    · rw [h.carries.hasStore, List.any_eq_true] at hstore
      obtain ⟨command, hmem, hs⟩ := hstore
      obtain ⟨x, hx, rfl⟩ := List.mem_map.1 hmem
      exact ⟨l.writes, ⟨l.drawn, c, address, data⟩, [], rfl, x.1, h.lt_drawn hx hs,
        .inr ⟨x, hx, hs, rfl⟩⟩

/-- Entering a write of the engine. -/
theorem record_engine (l : Ledger) (v : EngineView) (address : Nat) (data : List UInt16) :
    l.record v (some (.engine, .write address data))
      = { l with
          writes := l.writes ++ [⟨l.author v.queue.length .engine, .engine, address, data⟩] } := by
  simp [record, written, Client.isDrawing]

/-- The engine writes on behalf of the command under way. -/
theorem Balanced.author_engine {x : Nat × MemoryCommand} (h : l.Balanced busy v (x :: rest))
    (hq : rest.map Prod.snd = v.queue) : l.author v.queue.length .engine = x.1 := by
  obtain ⟨done, hgiven⟩ := h.suffix
  have hlength : l.given.length - v.queue.length = (done ++ [x]).length := by
    rw [← hgiven, ← hq]
    simp
    omega
  have htake : l.given.take (done ++ [x]).length = done ++ [x] := by
    rw [← hgiven, List.append_cons done x rest, List.take_left]
  rw [author, hlength, htake]
  simp [Client.isDrawing]

/-- An engine that is to write has a fill or a store under way, and writes on its behalf. -/
theorem Balanced.granted (h : l.Balanced busy v u) {address : Nat} {data : List UInt16}
    (hp : v.port = .granted (.write address data)) :
    ∃ x ∈ u, (x.2.isFill = true ∨ x.2.isStore = true)
      ∧ l.author v.queue.length .engine = x.1 := by
  have hcarries := h.carries
  generalize hu : u.map Prod.snd = commands at hcarries
  cases hcarries with
  | rest hr =>
    dsimp only at hp
    rw [hp] at hr
    cases hr
  | request hc hr =>
    dsimp only at hp
    obtain ⟨x, rest, rfl, rfl, hrest⟩ := List.map_eq_cons_iff.1 hu
    rw [hp] at hr
    obtain rfl := (List.cons.inj hr).1
    exact ⟨x, List.mem_cons_self, .inr (MemoryCommand.isStore_of_request? hc),
      h.author_engine hrest⟩
  | fill =>
    obtain ⟨x, rest, rfl, hx, hrest⟩ := List.map_eq_cons_iff.1 hu
    exact ⟨x, List.mem_cons_self, .inl (by rw [hx]; rfl), h.author_engine hrest⟩

/-- A write of the engine follows a write of a later transaction only if it is a store. -/
theorem Balanced.append_engine {x : Nat × MemoryCommand} (h : l.Balanced busy v (x :: rest))
    (hx : x.2.isFill = true ∨ x.2.isStore = true) {w : Write} (hauthor : w.author = x.1)
    (hclient : w.client.isDrawing = false) :
    { l with writes := l.writes ++ [w] }.Balanced busy v (x :: rest) := by
  have hgiven : x ∈ l.given := h.suffix.subset List.mem_cons_self
  have hsorted := h.sorted.sublist h.suffix.sublist
  rw [List.pairwise_cons] at hsorted
  have hnot (hd : w.client.isDrawing = true) : False := by
    rw [hclient] at hd
    cases hd
  refine h.append (fun hd => (hnot hd).elim) (fun _ => ⟨⟨x, hgiven, hauthor.symm⟩, fun y hy => ?_⟩)
    (fun w' hw' => ?_) (fun ho => ⟨ho, fun w' hw' => ?_, fun hd => (hnot hd).elim⟩)
    (fun ho => (h.overtakes ho).append w)
  · rw [hauthor]
    rcases List.mem_cons.1 hy with rfl | hy
    · exact Nat.le_refl _
    · exact hsorted.1 y hy
  · rw [hauthor]
    cases hd : w'.client.isDrawing with
    | false => exact .inl ((h.others w' hw' hd).2 x List.mem_cons_self)
    | true =>
      obtain ⟨hle, hkick⟩ := h.drawings w' hw' hd
      rcases hx with hx | hx
      · exact .inl (Nat.le_trans hle (h.fills x List.mem_cons_self hx))
      · exact .inr ⟨hkick, (h.numbered x hgiven).2 hx⟩
  · rw [hauthor]
    cases hd : w'.client.isDrawing with
    | false => exact (h.others w' hw' hd).2 x List.mem_cons_self
    | true =>
      rcases hx with hx | hx
      · exact Nat.le_trans (h.drawings w' hw' hd).1 (h.fills x List.mem_cons_self hx)
      · exact (h.inOrder ho).2 w' hw' hd x List.mem_cons_self hx

/-- A store that was overtaken is among the writes once it has been performed. -/
theorem Overtakes.written {x : Nat × MemoryCommand} {w : Write} (h : l.Overtakes (x :: rest))
    (hauthor : w.author = x.1) : { l with writes := l.writes ++ [w] }.Overtakes rest := by
  obtain ⟨before, w', after, hwrites, number, hlt, hsome⟩ := h
  refine ⟨before, w', after ++ [w], ?_, number, hlt, ?_⟩
  · rw [hwrites, List.append_assoc, List.cons_append]
  · rcases hsome with ⟨y, hy, hnumber⟩ | ⟨y, hy, hstore, hnumber⟩
    · exact .inl ⟨y, List.mem_append_left _ hy, hnumber⟩
    · rcases List.mem_cons.1 hy with rfl | hy
      · exact .inl ⟨w, List.mem_append_right _ (List.mem_singleton_self _),
          hauthor.trans hnumber⟩
      · exact .inr ⟨y, hy, hstore, hnumber⟩

/-- Reads are not entered. -/
theorem record_of_isRead (l : Ledger) (v : EngineView) (c : Client) {request : Request}
    (hr : request.isRead = true) : l.record v (some (c, request)) = l := by
  cases request with
  | write address data => cases hr
  | read address length => simp [record, written]

/-- The arbiter performs a request of the engine. -/
theorem Balanced.perform_engine (h : l.Balanced busy v u) {request : Request}
    (hp : v.port = .granted request) (response : Response) :
    ∃ u, (l.record v (some (.engine, request))).Balanced busy
      { v with port := .ready response } u := by
  have hcarries := h.carries
  generalize hu : u.map Prod.snd = commands at hcarries
  cases hcarries with
  | rest hr =>
    dsimp only at hp
    rw [hp] at hr
    cases hr
  | @request c queue port request' hc hr =>
    dsimp only at hp
    subst hp
    obtain rfl : request = request' := (List.cons.inj hr).1
    cases u with
    | nil => cases hu
    | cons x rest =>
      rw [List.map_cons, List.cons.injEq] at hu
      obtain ⟨hx, hrest⟩ := hu
      have hstore : x.2.isStore = !request.isRead := by
        rw [hx]
        exact MemoryCommand.isStore_of_request? hc
      refine ⟨rest, ?_⟩
      cases request with
      | read address length =>
        rw [l.record_of_isRead _ _ rfl]
        exact h.drop (by rw [hrest]; exact .rest rfl) fun ho => (h.overtakes ho).drop hstore
      | write address data =>
        have hauthor := h.author_engine hrest
        rw [l.record_engine]
        exact (h.append_engine (.inr hstore) hauthor rfl).drop (by rw [hrest]; exact .rest rfl)
          fun ho => (h.overtakes ho).written hauthor
  | @fill f queue progress port =>
    cases u with
    | nil => cases hu
    | cons x rest =>
      rw [List.map_cons, List.cons.injEq] at hu
      obtain ⟨hx, hrest⟩ := hu
      refine ⟨x :: rest, ?_⟩
      have hc : EngineView.Carries ⟨queue, some progress, .ready response⟩
          ((x :: rest).map Prod.snd) := by
        rw [List.map_cons, hx, hrest]
        exact .fill
      cases request with
      | read address length =>
        rw [l.record_of_isRead _ _ rfl]
        exact { h with carries := hc }
      | write address data =>
        have hfill : x.2.isFill = true := by rw [hx]; rfl
        rw [l.record_engine]
        exact { h.append_engine (.inl hfill) (h.author_engine hrest) rfl with carries := hc }

/-! ## Transactions -/

/-- What is known of a transaction stays known. -/
theorem Is.enter {kind : Transaction → Bool} {number : Nat} (h : l.Is kind number)
    (t : Transaction) (commands : List MemoryCommand) (kicked : Bool) :
    (l.enter t commands kicked).Is kind number := by
  obtain ⟨t', ht', hk⟩ := h
  exact ⟨t', List.getElem?_append_left (List.getElem?_eq_some_iff.1 ht').1 ▸ ht', hk⟩

/-- The transaction that was executed last. -/
theorem is_enter {kind : Transaction → Bool} {t : Transaction} (h : kind t = true)
    (commands : List MemoryCommand) (kicked : Bool) :
    (l.enter t commands kicked).Is kind l.executed.length :=
  ⟨t, by simp [enter], h⟩

/-- What a transaction overtakes stays overtaken. -/
theorem Overtakes.enter (h : l.Overtakes u) (t : Transaction) (commands : List MemoryCommand)
    (kicked : Bool) (more : List (Nat × MemoryCommand)) :
    (l.enter t commands kicked).Overtakes (u ++ more) := by
  obtain ⟨before, w, after, hwrites, number, hlt, hsome⟩ := h
  exact ⟨before, w, after, hwrites, number, hlt, hsome.imp_right fun ⟨x, hx, hs⟩ =>
    ⟨x, List.mem_append_left _ hx, hs⟩⟩

/-- A transaction is executed while the rasterizer is at rest and no fill waits or is under way:
either it kicks a primitive, or it may give commands to the engine. -/
theorem Balanced.enter (h : l.Balanced false v u) {t : Transaction} {commands : List MemoryCommand}
    {kicked : Bool} (hfilling : v.isFilling = false)
    (hc : ∀ c ∈ commands,
      (c.isStore = true → t.isStore = true) ∧ (c.isFill = true → t.isFill = true))
    (hk : kicked = true → t.isKick = true ∧ commands = []) :
    (l.enter t commands kicked).Balanced kicked { v with queue := v.queue ++ commands }
      (u ++ commands.map (l.executed.length, ·)) := by
  have hnew : ∀ x ∈ commands.map (l.executed.length, ·),
      x.1 = l.executed.length ∧ x.2 ∈ commands := by
    intro x hx
    obtain ⟨c, hmem, rfl⟩ := List.mem_map.1 hx
    exact ⟨rfl, hmem⟩
  have hlt : ∀ x ∈ l.given, x.1 < l.executed.length := fun x hx => (h.numbered x hx).1
  have hdrawn : l.drawn ≤ (l.enter t commands kicked).drawn
      ∧ (l.enter t commands kicked).drawn ≤ l.executed.length := by
    unfold Ledger.enter
    dsimp only
    split
    · exact ⟨h.drawn_le, Nat.le_refl _⟩
    · exact ⟨Nat.le_refl _, h.drawn_le⟩
  have hlength : (l.enter t commands kicked).executed.length = l.executed.length + 1 :=
    List.length_append
  have hnone (x : Nat × MemoryCommand) (hx : x ∈ u) : x.2.isFill = false :=
    h.carries.isFill hfilling x.2 (List.mem_map_of_mem hx)
  refine
    { carries := ?_
      suffix := ?_
      sorted := ?_
      numbered := fun x hx => ?_
      drawn_le := ?_
      drawing := fun hb => ?_
      fills := fun x hx hf => ?_
      current := ⟨fun hb => ?_, fun x hx hf => ?_⟩
      drawings := fun w hw hd => ?_
      others := fun w hw hd => ?_
      order := ?_
      inOrder := fun ho => ?_
      overtakes := fun ho => (h.overtakes ho).enter t commands kicked _ }
  · have hmap : (u ++ commands.map (l.executed.length, ·)).map Prod.snd
        = u.map Prod.snd ++ commands := by
      rw [List.map_append, List.map_map]
      exact congrArg _ (List.map_id _)
    rw [hmap]
    exact h.carries.append commands
  · obtain ⟨done, hdone⟩ := h.suffix
    exact ⟨done, by rw [← List.append_assoc, hdone]; rfl⟩
  · refine List.pairwise_append.2 ⟨h.sorted, ?_, fun x hx y hy => ?_⟩
    · exact List.pairwise_map.2 (List.pairwise_of_forall fun _ _ => Nat.le_refl _)
    · rw [(hnew y hy).1]
      exact Nat.le_of_lt (hlt x hx)
  · rw [hlength]
    rcases List.mem_append.1 hx with hx | hx
    · exact ⟨Nat.lt_succ_of_lt (hlt x hx), fun hs => ((h.numbered x hx).2 hs).enter _ _ _⟩
    · obtain ⟨hnumber, hmem⟩ := hnew x hx
      rw [hnumber]
      exact ⟨Nat.lt_succ_self _, fun hs => is_enter ((hc _ hmem).1 hs) _ _⟩
  · rw [hlength]
    exact Nat.le_succ_of_le hdrawn.2
  · obtain ⟨htk, rfl⟩ := hk hb
    subst hb
    refine ⟨is_enter htk _ _, fun x hx => ?_⟩
    rw [Ledger.enter, List.map_nil, List.append_nil] at hx
    exact Nat.le_of_lt (hlt x hx)
  · rcases List.mem_append.1 hx with hx | hx
    · rw [hnone x hx] at hf
      cases hf
    · rw [(hnew x hx).1]
      exact hdrawn.2
  · subst hb
    exact hlength.symm
  · rcases List.mem_append.1 hx with hx | hx
    · rw [hnone x hx] at hf
      cases hf
    · obtain ⟨hnumber, hmem⟩ := hnew x hx
      rw [hnumber, hlength]
      exact ⟨is_enter ((hc _ hmem).2 hf) _ _, rfl⟩
  · obtain ⟨hle, hkick⟩ := h.drawings w hw hd
    exact ⟨Nat.le_trans hle hdrawn.1, hkick.enter _ _ _⟩
  · obtain ⟨⟨x, hx, hauthor⟩, hle⟩ := h.others w hw hd
    refine ⟨⟨x, List.mem_append_left _ hx, hauthor⟩, fun y hy => ?_⟩
    rcases List.mem_append.1 hy with hy | hy
    · exact hle y hy
    · rw [(hnew y hy).1, ← hauthor]
      exact Nat.le_of_lt (hlt x hx)
  · exact h.order.imp fun hr => hr.imp_right fun ⟨hkick, hstore⟩ =>
      ⟨hkick.enter _ _ _, hstore.enter _ _ _⟩
  · obtain ⟨hpairwise, hstores⟩ := h.inOrder ho
    refine ⟨hpairwise, fun w hw hd x hx hs => ?_⟩
    rcases List.mem_append.1 hx with hx | hx
    · exact hstores w hw hd x hx hs
    · rw [(hnew x hx).1]
      exact Nat.le_trans (h.drawings w hw hd).1 h.drawn_le

end Ledger

end RasterGpu
