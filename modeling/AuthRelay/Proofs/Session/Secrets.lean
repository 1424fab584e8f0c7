import AuthRelay.Proofs.Secrets.Machine
import AuthRelay.Proofs.Secrets.Requests
import AuthRelay.Proofs.Session.Rotation
/-!
# Worlds that differ in secrets

Two worlds of sessions that differ in secrets only: in the fields of credential sets, in the values
of secret variables, and in the contents of secret files. What is done in them stays in step:
objects are looked up and changed, sources and relays are made, requests are edited and sent. Only
what a resolver loads, and where a secret file is, must not depend on a secret.
-/
namespace AuthRelay.Session

/-! ## Objects and worlds -/

/-- Two providers of the library that differ in the sets that they were given. -/
inductive Provider.Twins : Provider → Provider → Prop
  | fixed (stock : Stock) {set set' : CredentialSet} (h : set.Twins set') :
    Twins (.fixed stock set) (.fixed stock set')
  | environment (stem : String) (required : Bool) :
    Twins (.environment stem required) (.environment stem required)

/-- Two sources of the library that are both leaves or both chains, with providers that differ in
secrets only. -/
inductive SourceTwins : Source Provider → Source Provider → Prop
  | leaf {p p' : Provider} (h : p.Twins p') : SourceTwins (.leaf p) (.leaf p')
  | chain {members members' : List (Source Provider)}
      (h : List.Forall₂ Provider.Twins (Source.leavesOfAll members)
        (Source.leavesOfAll members')) :
    SourceTwins (.chain members) (.chain members')

theorem SourceTwins.leaves {source source' : Source Provider} (h : SourceTwins source source') :
    List.Forall₂ Provider.Twins source.leaves source'.leaves := by
  cases h with
  | leaf h => exact .cons h .nil
  | chain h => exact h

/-- A diagnostic shows both in the same way. -/
theorem SourceTwins.shown_eq {source source' : Source Provider} (h : SourceTwins source source') :
    (describe source).shown = (describe source').shown := by
  cases h with
  | chain h => rfl
  | leaf h =>
    cases h with
    | environment stem required => rfl
    | fixed stock h =>
      simp only [describe, Provider.shown?]
      rw [h.masked_eq]

mutual

/-- Two plans for sources of the library that differ in the sets in them. -/
inductive SourcePlan.Twins : SourcePlan → SourcePlan → Prop
  | named (name : String) : SourcePlan.Twins (.named name) (.named name)
  | fixed (stock : Stock) {set set' : CredentialSet} (h : set.Twins set') :
    SourcePlan.Twins (.fixed stock set) (.fixed stock set')
  | chain {members members' : List SourcePlan} (h : SourcePlan.TwinsAll members members') :
    SourcePlan.Twins (.chain members) (.chain members')
  | environment (stem : String) (required : Bool) (path resolver : Option String) :
    SourcePlan.Twins (.environment stem required path resolver)
      (.environment stem required path resolver)

/-- As many plans on both sides, and two of them in each place. -/
inductive SourcePlan.TwinsAll : List SourcePlan → List SourcePlan → Prop
  | nil : SourcePlan.TwinsAll [] []
  | cons {plan plan' : SourcePlan} {rest rest' : List SourcePlan}
      (h : SourcePlan.Twins plan plan') (hrest : SourcePlan.TwinsAll rest rest') :
    SourcePlan.TwinsAll (plan :: rest) (plan' :: rest')

end

/-- Two relays for one target, with sources that differ in secrets only. -/
structure Layer.Twins (layer layer' : Layer) : Prop where
  target : layer.target = layer'.target
  source : SourceTwins layer.source layer'.source

/-- Two worlds that differ in secrets only, on machines that are related. -/
structure World.Twins (M : Machine → Machine → Prop) (w w' : World) : Prop where
  machine : M w.machine w'.machine
  tallies : w.tallies = w'.tallies
  scripts : w.scripts = w'.scripts
  layers : List.Forall₂ Layer.Twins w.layers w'.layers
  resolvers : w.resolvers = w'.resolvers
  sources : Table.Related (fun _ => SourceTwins) w.sources w'.sources
  relays : w.relays = w'.relays
  requests : Table.Related (fun _ => Request.Twins) w.requests w'.requests

variable {V : Veil} {M M' : Machine → Machine → Prop} {w w' : World}

/-- Worlds in which no object has been made yet. -/
theorem World.Twins.of_machines {machine machine' : Machine} (h : M machine machine') :
    World.Twins M { machine } { machine := machine' } :=
  ⟨h, rfl, rfl, .nil, rfl, .nil, rfl, .nil⟩

theorem World.Twins.onMachines (h : w.Twins M w') {machine machine' : Machine}
    (hm : M' machine machine') :
    World.Twins M' { w with machine } { w' with machine := machine' } :=
  { h with machine := hm }

theorem World.Twins.mono (h : w.Twins M w') (hM : M' w.machine w'.machine) : w.Twins M' w' :=
  h.onMachines hM

/-- Two acts of a session that stay in step on related machines. -/
abbrev Together {α β : Type} (M : Machine → Machine → Prop) (S : α → β → Prop) (x : Act World α)
    (y : Act World β) : Prop :=
  Act.InStep (World.Twins M) S x y

/-- Two acts on lines that stay in step on related machines. -/
abbrev TogetherInLine {α β : Type} (M : Machine → Machine → Prop) (S : α → β → Prop)
    (x : Act (Line World) α) (y : Act (Line World) β) : Prop :=
  Act.InStep (Line.Twins (World.Twins M)) S x y

/-! ## Looking at a world and changing it -/

theorem onMachine_together {α β : Type} {S : α → β → Prop} {x : Act Machine α}
    {y : Act Machine β} (h : Act.InStep M S x y) :
    Together M S (World.onMachine x) (World.onMachine y) :=
  .zoom (fun _ _ hw => hw.machine) (fun _ _ _ _ hw hm => hw.onMachines hm) h

theorem named_together {α β : Type} {S : α → β → Prop} {table : World → Table α}
    {table' : World → Table β}
    (h : ∀ w w', w.Twins M w' → Table.Related (fun _ => S) (table w) (table' w')) (name : String) :
    Together M S (World.named table name) (World.named table' name) := by
  refine .get_bind fun w w' hw => ?_
  have hfound := (h w w' hw).find? name
  generalize (table w).find? name = found, (table' w').find? name = found' at hfound
  cases hfound with
  | none => exact .fail _
  | some hab => exact .pure hab

/-- A table without secrets holds the same. -/
theorem named_together_eq {α : Type} {table : World → Table α}
    (h : ∀ w w', w.Twins M w' → table w = table w') (name : String) :
    Together M Eq (World.named table name) (World.named table name) :=
  named_together (fun w w' hw => h w w' hw ▸ Table.Related.refl (fun _ _ => rfl) _) name

/-! ## Sources -/

section

variable {machine machine' : Machine} (h : machine.Twins V machine')
  (hclear : V.PathsClear machine.environment)
include h hclear

theorem supplier_together {p p' : Provider} (hp : p.Twins p') :
    p.supplier.InStep (World.Twins (Machine.Held machine machine')) CredentialSet.Twins
      p'.supplier := by
  cases hp with
  | fixed stock hset => exact ⟨rfl, .some (.pure hset), .none⟩
  | environment stem required =>
    exact ⟨rfl, .some (onMachine_together
      (FromEnvironment.credentials_inStep h hclear stem required)), .none⟩

theorem suppliers_together {source source' : Source Provider} (hs : SourceTwins source source') :
    (suppliers source).InStep (World.Twins (Machine.Held machine machine')) CredentialSet.Twins
      (suppliers source') := by
  cases hs with
  | leaf hp => exact .leaf (supplier_together h hclear hp)
  | chain hps =>
    refine .chain ?_
    rw [Source.leavesOfAll_mapAll, Source.leavesOfAll_mapAll, List.forall₂_map_left_iff,
      List.forall₂_map_right_iff]
    exact hps.imp fun _ _ hp => supplier_together h hclear hp

end

/-! ## Making sources -/

mutual

/-- What the resolvers that are made for a plan load: each the file for the path that it is given,
in the environment that it finds. -/
def SourcePlan.loads (level : Level) (w : World) : SourcePlan → List (Environment × Option String)
  | .environment _ _ path none => [(w.machine.environment, path)]
  | .chain members => SourcePlan.loadsAll level w members
  | _ => []

/-- What the resolvers that are made for some plans load, one plan after another and up to the first
one that fails. -/
def SourcePlan.loadsAll (level : Level) (w : World) :
    List SourcePlan → List (Environment × Option String)
  | [] => []
  | plan :: rest =>
    plan.loads level w ++
      match plan.make level w with
      | ⟨.ok _, v, _⟩ => SourcePlan.loadsAll level v rest
      | ⟨.error _, _, _⟩ => []

end

section

variable {files files' : Files} (level : Level)

theorem seeToResolver_together {stem : String} {required : Bool} {path resolver : Option String}
    (hw : w.Twins (EnvFile.Loading V files files') w')
    (hload : ∀ load ∈ (SourcePlan.environment stem required path resolver).loads level w,
      EnvFile.LoadsAlike V load.1 files files' load.2) :
    Act.InStepAt (World.Twins (EnvFile.Loading V files files')) Eq
      (SourcePlan.seeToResolver path resolver) (SourcePlan.seeToResolver path resolver) level w
      w' := by
  cases resolver with
  | some name =>
    exact ((named_together_eq (fun _ _ hw => hw.resolvers) name).map fun _ _ _ => rfl) level w w' hw
  | none =>
    have hcreate := Resolver.create_inStep hw.machine
      (hload (w.machine.environment, path) (by simp [SourcePlan.loads])) level
    exact (Act.InStepAt.zoom (fun _ _ => hw.onMachines) hcreate).bind_inStep fun _ _ _ => .pure rfl

mutual

/-- The sources that are made for two plans differ in secrets only. -/
theorem make_together {w w' : World} {plan plan' : SourcePlan} (h : plan.Twins plan')
    (hw : w.Twins (EnvFile.Loading V files files') w')
    (hload : ∀ load ∈ plan.loads level w, EnvFile.LoadsAlike V load.1 files files' load.2) :
    Act.InStepAt (World.Twins (EnvFile.Loading V files files')) SourceTwins plan.make plan'.make
      level w w' :=
  match h with
  | .named name => named_together (fun _ _ hw => hw.sources) name level w w' hw
  | .fixed stock hset => Act.InStep.pure (.leaf (.fixed stock hset)) level w w' hw
  | .chain hmembers =>
    (makeAll_together hmembers hw hload).bind_inStep fun _ _ hsources => .pure (.chain hsources)
  | .environment stem required _ _ =>
    (seeToResolver_together level hw hload).bind_inStep fun _ _ _ =>
      .pure (.leaf (.environment stem required))

theorem makeAll_together {w w' : World} {plans plans' : List SourcePlan}
    (h : SourcePlan.TwinsAll plans plans') (hw : w.Twins (EnvFile.Loading V files files') w')
    (hload : ∀ load ∈ SourcePlan.loadsAll level w plans,
      EnvFile.LoadsAlike V load.1 files files' load.2) :
    Act.InStepAt (World.Twins (EnvFile.Loading V files files')) (fun sources sources' =>
        List.Forall₂ Provider.Twins (Source.leavesOfAll sources) (Source.leavesOfAll sources'))
      (SourcePlan.makeAll plans) (SourcePlan.makeAll plans') level w w' :=
  match h with
  | .nil => Act.InStep.pure .nil level w w' hw
  | .cons hplan hrest =>
    (make_together hplan hw fun load hmem => hload load (List.mem_append_left _ hmem)).bind
      fun _ _ v v' _ _ hmake _ hsource hv =>
        have hothers := makeAll_together hrest hv fun load hmem =>
          hload load (List.mem_append_right _ (by rwa [hmake]))
        hothers.bind_inStep fun _ _ hothers => .pure (List.rel_append hsource.leaves hothers)

end

end

/-! ## Carriers -/

theorem nextReply_together (cell : Nat) :
    Together M Eq (nextReply cell) (nextReply cell) := by
  intro level w w' hw
  rw [Act.inStepAt_iff]
  unfold nextReply
  rw [hw.scripts]
  cases w'.scripts[cell]? with
  | none => exact ⟨.error _, hw, rfl⟩
  | some script =>
    exact ⟨.of_eq rfl, { hw with scripts := rfl }, rfl⟩

theorem drawIf_together (wanted : Bool) :
    TogetherInLine M Eq (drawIf wanted) (drawIf wanted) :=
  .ite .rfl (Line.drawBody_inStep.bind_eq fun _ => .pure rfl) (.pure rfl)

/-- What is announced of a request may be different; it is no record. -/
theorem announce_together (serial : Nat) (body : Option Bytes) :
    TogetherInLine M Eq (announce serial body) (announce serial body) :=
  .get_bind fun _ _ _ => .emit _ _

theorem sendScripted_together (cell : Nat) :
    TogetherInLine M Eq (sendScripted cell) (sendScripted cell) := by
  refine (Line.onPeer_inStep (nextReply_together cell)).bind_eq fun (serial, reply) => ?_
  refine Act.InStep.bind (S := Eq) ?_ fun _ _ _ => ?_
  · exact (Line.setHeaders_inStep _).bind fun _ _ _ => (Line.dropHeaders_inStep _).bind
      fun _ _ _ => Line.setUrl?_inStep _
  refine (drawIf_together _).bind_eq fun drawn => (announce_together _ _).bind fun _ _ _ =>
    (Act.InStep.ofExcept (.of_eq rfl)).bind fun _ _ _ => ?_
  cases reply.failure with
  | some g => exact .fail _
  | none => exact .ofExcept (.of_eq rfl)

theorem getElem?_related {α β : Type} {R : α → β → Prop} {l : List α} {l' : List β}
    (h : List.Forall₂ R l l') (i : Nat) : Option.Rel R l[i]? l'[i]? := by
  induction h generalizing i with
  | nil => exact .none
  | cons hab _ ih =>
    cases i with
    | zero => exact .some hab
    | succ i => exact ih i

theorem layerAt_together (cell : Nat) :
    TogetherInLine M Layer.Twins (Stack.layerAt cell) (Stack.layerAt cell) := by
  refine .get_bind fun line line' hline => ?_
  have hfound := getElem?_related hline.peer.layers cell
  generalize line.peer.layers[cell]? = found, line'.peer.layers[cell]? = found' at hfound
  cases hfound with
  | none => exact .fail _
  | some hlayer => exact .pure hlayer

/-- A send comes to the same, whatever the credentials are. -/
theorem send_together {machine machine' : Machine} (h : machine.Twins V machine')
    (hclear : V.PathsClear machine.environment) (stack : Stack) :
    TogetherInLine (Machine.Held machine machine') Eq stack.send stack.send := by
  -- from the carrier outwards: the carrier of a relay is the stack below it
  induction stack with
  | network => exact .fail _
  | script cell => exact sendScripted_together cell
  | layer mode cell inner ih =>
    rw [Stack.send_layer]
    refine (layerAt_together cell).bind fun here here' hlayer => ?_
    rw [hlayer.target]
    exact Relay.blocking_inStep (suppliers_together h hclear hlayer.source).gather ih

/-! ## Deliveries -/

theorem onLine_together {α : Type} {x y : Act (Line World) α} (h : TogetherInLine M Eq x y)
    {request request' : Request} (hrequest : request.Twins request') :
    Together M (fun found found' => found.1 = found'.1 ∧ found.2.Twins found'.2)
      (onLine request x) (onLine request' y) := by
  intro level w w' hw
  obtain ⟨hresult, hstate, hrecords⟩ := h level ⟨request, w⟩ ⟨request', w'⟩ ⟨hrequest, hw⟩
  refine ⟨.ok ⟨?_, hstate.request⟩, hstate.peer, hrecords⟩
  generalize (x level ⟨request, w⟩).result = found, (y level ⟨request', w'⟩).result = found'
    at hresult
  cases hresult with
  | ok heq => rw [heq]
  | error fault => rfl

theorem deliver_together {machine machine' : Machine} (h : machine.Twins V machine')
    (hclear : V.PathsClear machine.environment) (stack : Stack) (uses : List Use)
    {request request' : Request} (hrequest : request.Twins request') :
    Together (Machine.Held machine machine')
      (fun found found' => found.1.result = found'.1.result ∧ found.2.Twins found'.2)
      (deliver stack request uses) (deliver stack request' uses) := by
  refine (onLine_together (send_together h hclear stack) hrequest).bind ?_
  rintro ⟨result, left⟩ ⟨_, left'⟩ ⟨rfl, hleft⟩
  cases result with
  | error fault => exact .pure ⟨rfl, hleft⟩
  | ok response =>
    refine (Act.InStep.emit _ _).bind fun _ _ _ =>
      (Act.InStep.within response (performUses uses)).bind_eq fun (results, _) => ?_
    exact (Act.InStep.ofExcept (.of_eq rfl)).bind_eq fun _ => .pure ⟨rfl, hleft⟩

theorem enter_together (stack : Stack) : Together M Eq stack.enter stack.enter := by
  unfold Stack.enter
  cases stack.carrier with
  | script cell => exact .emit _ _
  | network | layer => exact .pure rfl

theorem exit_together (stack : Stack) (kind : Option Kind) :
    Together M Eq (stack.exit kind) (stack.exit kind) := by
  unfold Stack.exit
  cases stack.carrier with
  | script cell =>
    refine (Act.InStep.emit _ _).bind fun _ _ _ => .get_bind fun w w' hw => ?_
    rw [hw.scripts]
    exact .pure rfl
  | network | layer => exact .pure rfl

theorem close_together (stack : Stack) : Together M Eq stack.close stack.close := by
  unfold Stack.close
  cases stack.carrier with
  | script cell => exact .emit _ _
  | network | layer => exact .pure rfl

/-! ## Relays and requests -/

theorem forall₂_modify {α β : Type} {R : α → β → Prop} {l : List α} {l' : List β} {f : α → α}
    {g : β → β} (h : List.Forall₂ R l l') (hfg : ∀ a b, R a b → R (f a) (g b)) (i : Nat) :
    List.Forall₂ R (l.modify i f) (l'.modify i g) := by
  induction h generalizing i with
  | nil => cases i <;> exact .nil
  | cons hab hrest ih =>
    cases i with
    | zero => exact .cons (hfg _ _ hab) hrest
    | succ i => exact .cons hab (ih i)

theorem changeLayer_together (stack : Stack) {f g : Layer → Layer}
    (hfg : ∀ layer layer', Layer.Twins layer layer' → Layer.Twins (f layer) (g layer')) :
    Together M Eq (changeLayer stack f) (changeLayer stack g) := by
  cases stack with
  | layer mode cell inner =>
    exact .modify fun _ _ hw => { hw with layers := forall₂_modify hw.layers hfg cell }
  | network | script => exact .pure rfl

theorem CarrierPlan.make_together (carrier : CarrierPlan) :
    Together M Eq carrier.make carrier.make := by
  cases carrier with
  | network => exact .pure rfl
  | named name => exact named_together_eq (fun _ _ hw => hw.relays) name
  | script replies exitAnswer =>
    refine .get_bind fun w w' hw => ?_
    rw [hw.scripts]
    refine (Act.InStep.modify fun v v' hv => ?_).bind fun _ _ _ => .pure rfl
    exact { hv with scripts := congrArg (· ++ _) hv.scripts }

theorem placeRelay_together (mode : Mode) (target : String) {source source' : Source Provider}
    (h : SourceTwins source source') (inner : Stack) :
    Together M Eq (placeRelay mode target source inner)
      (placeRelay mode target source' inner) := by
  refine .get_bind fun w w' hw => ?_
  rw [hw.layers.length_eq]
  refine (Act.InStep.modify fun v v' hv => ?_).bind fun _ _ _ => .pure rfl
  exact { hv with layers := List.rel_append hv.layers (.cons ⟨rfl, h⟩ .nil) }

theorem keepRequest_together (name : String) {request request' : Request}
    (h : request.Twins request') :
    Together M Eq (keepRequest name request) (keepRequest name request') :=
  .modify fun _ _ hw => { hw with requests := hw.requests.assign h }

theorem RequestPlan.make_together (plan : RequestPlan) :
    Together M Request.Twins plan.make plan.make := by
  cases plan with
  | named name => exact named_together (fun _ _ hw => hw.requests) name
  | draft d => exact .ofExcept ((Corresponds.of_eq rfl).mono fun _ _ heq => heq ▸ .refl _)

theorem RequestPlan.keep_together (plan : RequestPlan) {request request' : Request}
    (h : request.Twins request') : Together M Eq (plan.keep request) (plan.keep request') := by
  cases plan with
  | named name => exact keepRequest_together name h
  | draft d => exact .pure rfl

theorem editRequest_together (edit : Request.Edit) {request request' : Request}
    (h : request.Twins request') :
    Together M (fun found found' => found.1 = found'.1 ∧ found.2.Twins found'.2)
      (editRequest request edit) (editRequest request' edit) :=
  onLine_together ((Line.setUrl?_inStep _).bind fun _ _ _ => (Line.setHeaders_inStep _).bind
    fun _ _ _ => Line.dropHeaders_inStep _) h

end AuthRelay.Session
