import RwaAgents.Library.Machine
import RwaAgents.Library.SetEdit
import RwaAgents.Agents.Registration

/-!
# Delegations over a slow network

A request of the client builds one transaction.  Once it is sent it is in flight, whatever
`sendAndConfirm` answers: it may land behind transactions that were sent later, or never.
Other clients use the same chain.

An executive may act for an agent while the delegate record of the two is open.  Of the
pairs that nobody else manages, the open records are those that the landed requests leave,
in the order they landed (`delegations_run`).  Once a revocation has landed, the record
stays closed if no delegation of the pair was in flight then and none is requested
later (`revoked_stays_closed`).  A delegation in flight may land behind the revocation
and open the record again.
-/

namespace RwaAgents

/-- The agent registry on the chain.  What is relied on: a transaction that succeeds with
one instruction opens or closes the record the instruction is about, and no other.  A
delegation names no record.  It is about the one the SDK derives. -/
structure RegistryChain (umi : RegistryUmi) (Executive : Type) where
  State : Type
  /-- What a transaction leaves that succeeds. -/
  process : State → List (RegistryCall Executive) → Option State
  /-- The addresses of the open delegate records. -/
  records : State → Set String
  identity : ∀ {s s' asset collection uri},
    process s [.registerIdentityV1 asset collection uri] = some s' → records s' = records s
  executive : ∀ {s s' input},
    process s [.registerExecutiveV1 input] = some s' → records s' = records s
  delegated : ∀ {s s' agentAsset agentIdentity executiveProfile},
    process s [.delegateExecutionV1 agentAsset agentIdentity executiveProfile] = some s' →
      records s' = insert
        (umi.findExecutionDelegateRecordV1Pda executiveProfile.address agentAsset).address
        (records s)
  revoked : ∀ {s s' record agentAsset destination},
    process s [.revokeExecutionV1 record agentAsset destination] = some s' →
      records s' = records s \ {record.address}

/-! ## Requests -/

inductive IdentityOp (Executive : Type)
  | registerIdentity (input : RegisterIdentityInput)
  | registerIdentityForAgent (agent : RwaAgent) (asset : AssetRef) (collection : Option AssetRef)
  | registerExecutive (input : Executive)
  | delegateExecution (input : DelegateExecutionInput)
  | revokeExecution (input : RevokeExecutionInput)

/-- An operation, sent or only built. -/
structure IdentityRequest (Executive : Type) where
  op : IdentityOp Executive
  executeFlag : Bool

/-- A transaction that was sent, with the operation it was built for. -/
structure SentTransaction (Executive : Type) where
  op : IdentityOp Executive
  builder : List (RegistryCall Executive)

section

variable {Executive : Type} (umi : RegistryUmi)

def IdentityOp.build : IdentityOp Executive → Except String (List (RegistryCall Executive))
  | registerIdentity input => buildRegisterIdentity umi input
  | registerIdentityForAgent agent asset collection =>
      buildRegisterIdentityForAgent umi agent asset collection
  | registerExecutive input => .ok (buildRegisterExecutive input)
  | delegateExecution input => return (← buildDelegateExecution umi input).builder
  | revokeExecution input => return (← buildRevokeExecution umi input).builder

/-- What an operation is meant to do to the delegations. -/
def IdentityOp.edit? : IdentityOp Executive → Option (SetEdit Delegation)
  | delegateExecution input =>
      some (.insert ⟨input.agentAsset.address, input.executiveAuthority.address⟩)
  | revokeExecution input =>
      some (.erase ⟨input.agentAsset.address, input.executiveAuthority.address⟩)
  | _ => none

/-- The record a revocation is about. -/
def RevokeExecutionInput.record (input : RevokeExecutionInput) : String :=
  umi.delegateRecord ⟨input.agentAsset.address, input.executiveAuthority.address⟩

/-- The operation is meant to open the record. -/
def IdentityOp.Opens (record : String) (op : IdentityOp Executive) : Prop :=
  ∃ delegation, op.edit? = some (.insert delegation) ∧ umi.delegateRecord delegation = record

/-- The transaction of a request, if it is sent. -/
def IdentityRequest.sent? (request : IdentityRequest Executive) :
    Option (SentTransaction Executive) :=
  if request.executeFlag then (request.op.build umi).toOption.map (⟨request.op, ·⟩) else none

end

/-! ## The network -/

section

variable {Executive : Type} {umi : RegistryUmi}

/-- The chain, and the transactions that are on their way to it. -/
structure Network (chain : RegistryChain umi Executive) where
  state : chain.State
  inFlight : List (SentTransaction Executive)

inductive NetworkEvent (chain : RegistryChain umi Executive)
  /-- The client makes a request.  If it sends, `sendAndConfirm` returns or throws as
  `confirmation` says. -/
  | request (request : IdentityRequest Executive) (confirmation : Except String Unit)
  /-- A transaction in flight reaches the chain. -/
  | lands (place : ℕ)
  /-- A transaction in flight never arrives. -/
  | dropped (place : ℕ)
  /-- Others use the chain. -/
  | others (change : chain.State → chain.State)

variable {chain : RegistryChain umi Executive}

/-- `builder.sendAndConfirm(umi)`, for the operation that the builder is of. -/
def Network.sendAndConfirm (op : IdentityOp Executive) (confirmation : Except String Unit)
    (builder : List (RegistryCall Executive)) : EStateM String (Network chain) Unit := do
  modify fun net => { net with inFlight := net.inFlight ++ [⟨op, builder⟩] }
  MonadExcept.ofExcept confirmation

def IdentityRequest.execute (request : IdentityRequest Executive)
    (confirmation : Except String Unit) :
    EStateM String (Network chain) (SendResult (RegistryCall Executive)) := do
  let builder ← MonadExcept.ofExcept (request.op.build umi)
  sendBuilderIfExecute (Network.sendAndConfirm request.op confirmation) builder
    request.executeFlag

/-- A transaction that fails changes nothing. -/
def Network.land (net : Network chain) (place : ℕ) : Network chain :=
  match net.inFlight[place]? with
  | some sent =>
      { state := (chain.process net.state sent.builder).getD net.state
        inFlight := net.inFlight.eraseIdx place }
  | none => net

def networkStep (net : Network chain) : NetworkEvent chain →
    Network chain × Option (Except String (SendResult (RegistryCall Executive)))
  | .request request confirmation =>
      let r := (request.execute confirmation).settle net
      (r.2, some r.1)
  | .lands place => (net.land place, none)
  | .dropped place => ({ net with inFlight := net.inFlight.eraseIdx place }, none)
  | .others change => ({ net with state := change net.state }, none)

/-- The runs of the client from any state of the chain. -/
def networkMachine (chain : RegistryChain umi Executive) :
    Machine (Network chain) (NetworkEvent chain)
      (Option (Except String (SendResult (RegistryCall Executive)))) :=
  ⟨fun net => net.inFlight = [], networkStep⟩

abbrev NetworkStep (chain : RegistryChain umi Executive) :=
  Machine.Step (Network chain) (NetworkEvent chain)
    (Option (Except String (SendResult (RegistryCall Executive))))

/-- What a step does to the delegations: nothing, unless a transaction lands and succeeds. -/
def NetworkStep.edit? (e : NetworkStep chain) : Option (SetEdit Delegation) :=
  match e.action with
  | .lands place => (e.before.inFlight[place]?).bind fun sent =>
      (chain.process e.before.state sent.builder).bind fun _ => sent.op.edit?
  | _ => none

/-- The edits of a run, in the order of landing. -/
def landedEdits (net : Network chain) (events : List (NetworkEvent chain)) :
    List (SetEdit Delegation) :=
  ((networkMachine chain).steps net events).filterMap NetworkStep.edit?

/-- The step is one of others. -/
def NetworkStep.ByOthers (e : NetworkStep chain) : Prop :=
  ∃ change, e.action = .others change

/-- The records that are open on the chain. -/
def Network.records (net : Network chain) : Set String := chain.records net.state

/-! ## What a step does -/

/-- A request puts its transaction in flight, whatever is answered. -/
theorem next_request (net : Network chain) (request : IdentityRequest Executive)
    (confirmation : Except String Unit) :
    (networkMachine chain).next net (.request request confirmation) =
      { net with inFlight := net.inFlight ++ (request.sent? umi).toList } := by
  change ((request.execute confirmation).settle net).2 = _
  rw [IdentityRequest.execute, EStateM.settle_ofExcept_bind, IdentityRequest.sent?]
  cases request.op.build umi with
  | error e => cases request.executeFlag <;> simp [Except.toOption]
  | ok builder =>
      cases request.executeFlag with
      | false => simp [sendBuilderIfExecute, EStateM.settle]
      | true =>
          simp only [sendBuilderIfExecute, Network.sendAndConfirm, if_true, EStateM.settle,
            EStateM.run_bind, EStateM.run_modify, EStateM.run_ofExcept]
          cases confirmation <;> rfl

/-- A transaction that succeeds does what its operation is meant to do. -/
theorem IdentityOp.records_of_process {op : IdentityOp Executive} {s s' : chain.State}
    {builder : List (RegistryCall Executive)} (hbuild : op.build umi = .ok builder)
    (hprocess : chain.process s builder = some s') :
    chain.records s' = (op.edit?.map (SetEdit.map umi.delegateRecord)).elim (chain.records s)
      (SetEdit.apply (chain.records s)) := by
  cases op with
  | registerIdentity input =>
      simp only [build, buildRegisterIdentity, Except.bind_eq_ok, Except.pure_eq_ok] at hbuild
      obtain ⟨_, -, _, -, rfl⟩ := hbuild
      exact chain.identity hprocess
  | registerIdentityForAgent agent asset collection =>
      simp only [build, buildRegisterIdentityForAgent, buildRegisterIdentity, Except.bind_eq_ok,
        Except.pure_eq_ok] at hbuild
      obtain ⟨_, -, _, -, rfl⟩ := hbuild
      exact chain.identity hprocess
  | registerExecutive input =>
      cases hbuild
      exact chain.executive hprocess
  | delegateExecution input =>
      simp only [build, Except.bind_eq_ok, Except.pure_eq_ok] at hbuild
      obtain ⟨built, hbuilt, rfl⟩ := hbuild
      rw [buildDelegateExecution_ok hbuilt] at hprocess
      exact chain.delegated hprocess
  | revokeExecution input =>
      simp only [build, Except.bind_eq_ok, Except.pure_eq_ok] at hbuild
      obtain ⟨built, hbuilt, rfl⟩ := hbuild
      obtain ⟨hrecord, destination, hbuilder⟩ := buildRevokeExecution_ok hbuilt
      rw [hbuilder] at hprocess
      rw [chain.revoked hprocess, hrecord]
      rfl

/-- Every transaction in flight was built for its operation, which satisfies `P`. -/
def Network.AllSent (P : IdentityOp Executive → Prop) (net : Network chain) : Prop :=
  ∀ sent ∈ net.inFlight, sent.op.build umi = .ok sent.builder ∧ P sent.op

/-- If the step is a request, its operation satisfies `P`. -/
def NetworkStep.Requests (P : IdentityOp Executive → Prop) (e : NetworkStep chain) : Prop :=
  ∀ request confirmation, e.action = .request request confirmation → P request.op

namespace Network.AllSent

variable {P : IdentityOp Executive → Prop} {net : Network chain}

theorem of_empty (h : net.inFlight = []) : net.AllSent P := by
  intro sent hsent
  rw [h] at hsent
  cases hsent

theorem eraseIdx (h : net.AllSent P) (place : ℕ) {s : chain.State} :
    AllSent P (⟨s, net.inFlight.eraseIdx place⟩ : Network chain) :=
  fun sent hsent => h sent (List.mem_of_mem_eraseIdx hsent)

theorem land (h : net.AllSent P) (place : ℕ) : (net.land place).AllSent P := by
  rw [Network.land]
  split
  · exact h.eraseIdx place
  · exact h

theorem next (h : net.AllSent P) {event : NetworkEvent chain}
    (hevent : NetworkStep.Requests P ((networkMachine chain).stepAt net event)) :
    ((networkMachine chain).next net event).AllSent P := by
  cases event with
  | request request confirmation =>
      rw [next_request]
      intro sent hsent
      rcases List.mem_append.mp hsent with hold | hnew
      · exact h sent hold
      · rw [Option.mem_toList, IdentityRequest.sent?] at hnew
        split at hnew
        · obtain ⟨builder, hbuilder, rfl⟩ := Option.map_eq_some_iff.mp hnew
          refine ⟨?_, hevent request confirmation rfl⟩
          cases hbuild : request.op.build umi with
          | error e => rw [hbuild] at hbuilder; cases hbuilder
          | ok built => rw [hbuild] at hbuilder; cases hbuilder; rfl
        · cases hnew
  | lands place => exact h.land place
  | dropped place => exact h.eraseIdx place
  | others change => exact h

end Network.AllSent

/-- A step that is not one of others edits the open records as it edits the delegations. -/
theorem records_next {P : IdentityOp Executive → Prop} {net : Network chain}
    (h : net.AllSent P) {event : NetworkEvent chain}
    (hevent : ¬ NetworkStep.ByOthers ((networkMachine chain).stepAt net event)) :
    ((networkMachine chain).next net event).records =
      ((NetworkStep.edit? ((networkMachine chain).stepAt net event)).map
        (SetEdit.map umi.delegateRecord)).elim net.records (SetEdit.apply net.records) := by
  cases event with
  | request request confirmation =>
      rw [next_request]
      rfl
  | lands place =>
      change (net.land place).records = _
      simp only [Network.land, NetworkStep.edit?, Machine.stepAt]
      cases hsent : net.inFlight[place]? with
      | none => rfl
      | some sent =>
          have hbuild := (h sent (List.mem_of_getElem? hsent)).1
          cases hprocess : chain.process net.state sent.builder with
          | none => simp [Network.records, hprocess]
          | some s' =>
              simp only [Network.records, hprocess, Option.getD_some, Option.bind_some]
              exact IdentityOp.records_of_process hbuild hprocess
  | dropped place => rfl
  | others change => exact absurd ⟨change, rfl⟩ hevent

/-- An edit of a step is meant by an operation that was in flight. -/
theorem NetworkStep.op_of_edit {P : IdentityOp Executive → Prop} {e : NetworkStep chain}
    (h : e.before.AllSent P) {edit : SetEdit Delegation} (hedit : e.edit? = some edit) :
    ∃ op, P op ∧ op.edit? = some edit := by
  rw [edit?] at hedit
  split at hedit
  · obtain ⟨sent, hsent, hedit⟩ := Option.bind_eq_some_iff.mp hedit
    obtain ⟨_, -, hedit⟩ := Option.bind_eq_some_iff.mp hedit
    exact ⟨sent.op, (h sent (List.mem_of_getElem? hsent)).2, hedit⟩
  · cases hedit

/-! ## Runs -/

/-- The operation is about a pair in `known`, if it is about one. -/
def IdentityOp.Within (known : Set Delegation) (op : IdentityOp Executive) : Prop :=
  ∀ edit, op.edit? = some edit → edit.elem ∈ known

/-- The edits of a run are meant by operations that were requested. -/
theorem landedEdits_within {known : Set Delegation} {net : Network chain}
    (hstart : net.inFlight = []) {events : List (NetworkEvent chain)}
    (hrequests : ∀ e ∈ (networkMachine chain).steps net events,
      NetworkStep.Requests (IdentityOp.Within known) e) :
    ∀ edit ∈ landedEdits net events, edit.elem ∈ known := by
  intro edit hedit
  obtain ⟨e, he, hedit⟩ := List.mem_filterMap.mp hedit
  obtain ⟨hbefore, -⟩ := Machine.invariant_of_steps (I := Network.AllSent (IdentityOp.Within known))
    (fun net event h hevent => h.next hevent) (.of_empty hstart) hrequests
  obtain ⟨op, hwithin, hop⟩ := NetworkStep.op_of_edit (hbefore e he) hedit
  exact hwithin edit hop

/-- The part of the open records in `F`, if all requests are about pairs with a record in
`F` and others keep off it. -/
theorem records_inter_run {known : Set Delegation} {F : Set String}
    (hF : ∀ delegation ∈ known, umi.delegateRecord delegation ∈ F) {net : Network chain}
    (hstart : net.inFlight = []) {events : List (NetworkEvent chain)}
    (hrequests : ∀ e ∈ (networkMachine chain).steps net events,
      NetworkStep.Requests (IdentityOp.Within known) e)
    (hothers : ∀ e ∈ (networkMachine chain).steps net events, NetworkStep.ByOthers e →
      e.after.records ∩ F = e.before.records ∩ F) :
    ((landedEdits net events).map (SetEdit.map umi.delegateRecord)).foldl SetEdit.apply
      (net.records ∩ F) = ((networkMachine chain).run net events).records ∩ F := by
  rw [landedEdits, List.map_filterMap]
  refine Machine.foldl_log (V := fun net => net.records ∩ F)
    (I := Network.AllSent (IdentityOp.Within known))
    (C := fun e => NetworkStep.Requests (IdentityOp.Within known) e ∧
      (NetworkStep.ByOthers e → e.after.records ∩ F = e.before.records ∩ F))
    (fun net event hsent hevent => ⟨hsent.next hevent.1, ?_⟩)
    (Network.AllSent.of_empty hstart) fun e he => ⟨hrequests e he, hothers e he⟩
  by_cases hby : NetworkStep.ByOthers ((networkMachine chain).stepAt net event)
  · have hnone : NetworkStep.edit? ((networkMachine chain).stepAt net event) = none := by
      obtain ⟨change, hchange⟩ := hby
      rw [NetworkStep.edit?, hchange]
    rw [hnone]
    exact hevent.2 hby
  · rw [records_next hsent hby]
    cases hedit : NetworkStep.edit? ((networkMachine chain).stepAt net event) with
    | none => rfl
    | some edit =>
        obtain ⟨op, hwithin, hop⟩ := NetworkStep.op_of_edit hsent hedit
        refine SetEdit.apply_inter ?_
        rw [SetEdit.elem_map]
        exact hF _ (hwithin edit hop)

/-- Whatever is sent, lost or late, the open records of the pairs that others keep off are
those of the delegations that the landed requests have left. -/
theorem delegations_run {known held : Set Delegation} (hinj : known.InjOn umi.delegateRecord)
    (hheld : held ⊆ known) {net : Network chain} (hstart : net.inFlight = [])
    (hrecords : net.records ∩ umi.delegateRecord '' known = umi.delegateRecord '' held)
    {events : List (NetworkEvent chain)}
    (hrequests : ∀ e ∈ (networkMachine chain).steps net events,
      NetworkStep.Requests (IdentityOp.Within known) e)
    (hothers : ∀ e ∈ (networkMachine chain).steps net events, NetworkStep.ByOthers e →
      e.after.records ∩ umi.delegateRecord '' known =
        e.before.records ∩ umi.delegateRecord '' known) :
    ((networkMachine chain).run net events).records ∩ umi.delegateRecord '' known =
      umi.delegateRecord '' (landedEdits net events).foldl SetEdit.apply held := by
  rw [← records_inter_run (fun _ h => Set.mem_image_of_mem _ h) hstart hrequests hothers, hrecords]
  exact SetEdit.foldl_map_image hinj hheld (landedEdits_within hstart hrequests)

/-! ## After a revocation -/

/-- A step opens a record only if an operation in flight is meant to, or others do. -/
theorem notMem_records_next {record : String} {net : Network chain}
    (hsent : net.AllSent fun op => ¬ op.Opens umi record) {event : NetworkEvent chain}
    (hothers : NetworkStep.ByOthers ((networkMachine chain).stepAt net event) →
      record ∈ ((networkMachine chain).next net event).records → record ∈ net.records)
    (hclosed : record ∉ net.records) :
    record ∉ ((networkMachine chain).next net event).records := by
  by_cases hby : NetworkStep.ByOthers ((networkMachine chain).stepAt net event)
  · exact fun hmem => hclosed (hothers hby hmem)
  · rw [records_next hsent hby]
    cases hedit : NetworkStep.edit? ((networkMachine chain).stepAt net event) with
    | none => exact hclosed
    | some edit =>
        obtain ⟨op, hop, hmeant⟩ := NetworkStep.op_of_edit hsent hedit
        cases edit with
        | insert delegation =>
            rintro (rfl | hmem)
            · exact hop ⟨delegation, hmeant, rfl⟩
            · exact hclosed hmem
        | erase delegation => exact fun hmem => hclosed hmem.1

/-- A revocation in flight that succeeds closes the record of the pair. -/
theorem notMem_of_revoked {P : IdentityOp Executive → Prop} {net : Network chain}
    (hsent : net.AllSent P) {place : ℕ} {input : RevokeExecutionInput}
    {builder : List (RegistryCall Executive)}
    (hplace : net.inFlight[place]? = some ⟨.revokeExecution input, builder⟩)
    (hsucceeds : (chain.process net.state builder).isSome) :
    input.record umi ∉ (net.land place).records := by
  obtain ⟨s', hprocess⟩ := Option.isSome_iff_exists.mp hsucceeds
  have hbuild := (hsent _ (List.mem_of_getElem? hplace)).1
  have hland : (net.land place).records = chain.records s' := by
    simp only [Network.land, hplace, hprocess, Option.getD_some, Network.records]
  rw [hland, IdentityOp.records_of_process hbuild hprocess]
  exact fun hmem => hmem.2 rfl

/-- After a revocation has landed, the record of the pair stays closed through every run in
which nobody else opens it, if no delegation of the pair is in flight and none is requested. -/
theorem revoked_stays_closed {net : Network chain} (h : (networkMachine chain).Reachable net)
    {place : ℕ} {input : RevokeExecutionInput} {builder : List (RegistryCall Executive)}
    (hplace : net.inFlight[place]? = some ⟨.revokeExecution input, builder⟩)
    (hsucceeds : (chain.process net.state builder).isSome)
    (hinFlight : ∀ sent ∈ net.inFlight, ¬ sent.op.Opens umi (input.record umi))
    {events : List (NetworkEvent chain)}
    (hrequests : ∀ e ∈ (networkMachine chain).steps (net.land place) events,
      NetworkStep.Requests (fun op => ¬ op.Opens umi (input.record umi)) e)
    (hothers : ∀ e ∈ (networkMachine chain).steps (net.land place) events,
      NetworkStep.ByOthers e → input.record umi ∈ e.after.records →
        input.record umi ∈ e.before.records) :
    input.record umi ∉ ((networkMachine chain).run net (.lands place :: events)).records := by
  have hbuilt : net.AllSent fun _ => True :=
    h.invariant (fun _ hstart => .of_empty hstart)
      fun net event hsent => hsent.next fun _ _ _ => trivial
  have hclosed := notMem_of_revoked hbuilt hplace hsucceeds
  have hsent : (net.land place).AllSent fun op => ¬ op.Opens umi (input.record umi) := by
    refine Network.AllSent.land (fun sent hsent => ⟨(hbuilt sent hsent).1, hinFlight sent hsent⟩) _
  exact (Machine.invariant_of_steps
    (I := fun net => (net.AllSent fun op => ¬ op.Opens umi (input.record umi)) ∧
      input.record umi ∉ net.records)
    (C := fun e => NetworkStep.Requests (fun op => ¬ op.Opens umi (input.record umi)) e ∧
      (NetworkStep.ByOthers e → input.record umi ∈ e.after.records →
        input.record umi ∈ e.before.records))
    (fun net event hnet hevent => ⟨hnet.1.next hevent.1,
      notMem_records_next hnet.1 hevent.2 hnet.2⟩)
    ⟨hsent, hclosed⟩ fun e he => ⟨hrequests e he, hothers e he⟩).2.2

end

/-! ## A sample chain -/

namespace SampleRegistry

def umi : RegistryUmi where
  publicKey := .ok
  publicKey_eq := publicKey_eq_of_ok
  findAgentIdentityV1Pda asset := ⟨"identity-" ++ asset, 255⟩
  findAssetSignerPda asset := ⟨"signer-" ++ asset, 254⟩
  payer := "payer"
  findExecutiveProfileV1Pda authority := ⟨"profile-" ++ authority, 253⟩
  findExecutionDelegateRecordV1Pda profile asset := ⟨profile ++ "-" ++ asset, 252⟩

/-- An open record is not opened again, and only an open one is closed. -/
def process (s : List String) : List (RegistryCall Unit) → Option (List String)
  | [.registerIdentityV1 ..] => some s
  | [.registerExecutiveV1 _] => some s
  | [.delegateExecutionV1 agentAsset _ profile] =>
      let record := (umi.findExecutionDelegateRecordV1Pda profile.address agentAsset).address
      if record ∈ s then none else some (record :: s)
  | [.revokeExecutionV1 record _ _] =>
      if record.address ∈ s then some (s.filter (· ≠ record.address)) else none
  | _ => none

def chain : RegistryChain umi Unit where
  State := List String
  process
  records s := { record | record ∈ s }
  identity h := by cases h; rfl
  executive h := by cases h; rfl
  delegated h := by
    obtain ⟨-, h⟩ := Option.ite_none_left_eq_some.mp h
    cases h
    exact Set.ext fun _ => List.mem_cons
  revoked h := by
    obtain ⟨-, h⟩ := Option.ite_none_right_eq_some.mp h
    cases h
    ext k
    simp

def delegate (agentAsset executive : String) : IdentityOp Unit :=
  .delegateExecution ⟨.key agentAsset, .key executive⟩

def revoke (agentAsset executive : String) : IdentityOp Unit :=
  .revokeExecution { agentAsset := .key agentAsset, executiveAuthority := .key executive }

/-- No record is open, and nothing is in flight. -/
def idle : Network chain := ⟨([] : List String), []⟩

/-- The first delegation times out and lands last.  In between somebody else opens a record. -/
def lateEvents : List (NetworkEvent chain) := [
  .request ⟨delegate "agent-a" "executive", true⟩ (.error "block height exceeded"),
  .request ⟨delegate "agent-b" "executive", true⟩ (.ok ()),
  .lands 1,
  .others fun s : List String => "profile-other-agent-c" :: s,
  .lands 0,
  .request ⟨revoke "agent-b" "executive", true⟩ (.ok ()),
  .request ⟨revoke "agent-a" "executive", false⟩ (.ok ()),
  .lands 0]

/-- The pairs of the run. -/
def managed : Set Delegation := {⟨"agent-a", "executive"⟩, ⟨"agent-b", "executive"⟩}

/-- The delegation is in force, and its revocation is in flight. -/
def revoking : Network chain := (networkMachine chain).run idle [
  .request ⟨delegate "agent-a" "executive", true⟩ (.ok ()),
  .lands 0,
  .request ⟨revoke "agent-a" "executive", true⟩ (.error "block height exceeded")]

def letOtherIn : List (NetworkEvent chain) := [
  .request ⟨delegate "agent-a" "other", true⟩ (.ok ()),
  .lands 0]

theorem lateEvents_within : ∀ e ∈ (networkMachine chain).steps idle lateEvents,
    NetworkStep.Requests (IdentityOp.Within managed) e := by
  intro e he request confirmation haction
  have hmem := Machine.action_mem he
  rw [haction] at hmem
  simp only [lateEvents, List.mem_cons, NetworkEvent.request.injEq, reduceCtorEq,
    List.not_mem_nil, or_false, false_or] at hmem
  rcases hmem with ⟨rfl, -⟩ | ⟨rfl, -⟩ | ⟨rfl, -⟩ | ⟨rfl, -⟩ <;> intro edit hedit <;> cases hedit
  · exact .inl rfl
  · exact .inr rfl
  · exact .inr rfl
  · exact .inl rfl

theorem lateEvents_others : ∀ e ∈ (networkMachine chain).steps idle lateEvents,
    NetworkStep.ByOthers e →
      e.after.records ∩ umi.delegateRecord '' managed =
        e.before.records ∩ umi.delegateRecord '' managed := by
  intro e he ⟨change, hchange⟩
  have hmem := Machine.action_mem he
  obtain ⟨pre, event, post, -, rfl⟩ := Machine.mem_steps he
  cases hchange
  simp only [lateEvents, Machine.stepAt, List.mem_cons, reduceCtorEq, List.not_mem_nil, or_false,
    false_or] at hmem
  cases NetworkEvent.others.inj hmem
  have hinsert : ((networkMachine chain).stepAt ((networkMachine chain).run idle pre)
      (.others fun s : List String => "profile-other-agent-c" :: s)).after.records =
        insert "profile-other-agent-c" ((networkMachine chain).run idle pre).records :=
    Set.ext fun _ => List.mem_cons
  rw [hinsert]
  refine Set.insert_inter_of_notMem ?_
  rintro ⟨_, rfl | rfl, hrecord⟩
  · exact absurd hrecord (by decide)
  · exact absurd hrecord (by decide)

end SampleRegistry

theorem delegations_run_late :
    ((networkMachine SampleRegistry.chain).run SampleRegistry.idle
        SampleRegistry.lateEvents).records ∩
      SampleRegistry.umi.delegateRecord '' SampleRegistry.managed =
        {SampleRegistry.umi.delegateRecord ⟨"agent-a", "executive"⟩} := by
  have hinj : SampleRegistry.managed.InjOn SampleRegistry.umi.delegateRecord := by
    rintro _ (rfl | rfl) _ (rfl | rfl) h
    · rfl
    · exact absurd h (by decide)
    · exact absurd h (by decide)
    · rfl
  have hnone : SampleRegistry.idle.records ∩
      SampleRegistry.umi.delegateRecord '' SampleRegistry.managed =
        SampleRegistry.umi.delegateRecord '' ∅ := by
    rw [Set.image_empty]
    exact Set.eq_empty_of_forall_notMem fun k hk => List.not_mem_nil hk.1
  rw [delegations_run hinj (Set.empty_subset _) rfl hnone SampleRegistry.lateEvents_within
    SampleRegistry.lateEvents_others]
  have hedits : landedEdits SampleRegistry.idle SampleRegistry.lateEvents =
      [.insert ⟨"agent-b", "executive"⟩, .insert ⟨"agent-a", "executive"⟩,
        .erase ⟨"agent-b", "executive"⟩] := rfl
  rw [hedits, ← Set.image_singleton]
  congr 1
  ext delegation
  simp only [List.foldl_cons, List.foldl_nil, SetEdit.apply, Set.mem_sdiff, Set.mem_insert_iff,
    Set.mem_empty_iff_false, or_false, Set.mem_singleton_iff]
  constructor
  · rintro ⟨rfl | rfl, hne⟩
    · rfl
    · exact absurd rfl hne
  · rintro rfl
    exact ⟨.inl rfl, by decide⟩

/-- The revocation timed out and lands, and then another executive is let in. -/
theorem revoked_stays_closed_late :
    SampleRegistry.umi.delegateRecord ⟨"agent-a", "executive"⟩ ∉
      ((networkMachine SampleRegistry.chain).run SampleRegistry.revoking
        (.lands 0 :: SampleRegistry.letOtherIn)).records := by
  have hplace : SampleRegistry.revoking.inFlight[0]? =
      some ⟨SampleRegistry.revoke "agent-a" "executive", _⟩ := rfl
  refine revoked_stays_closed ((Machine.Reachable.start rfl).run _) hplace rfl ?_ ?_ ?_
  · intro sent hsent
    rw [List.mem_singleton.mp hsent]
    rintro ⟨delegation, hopens, -⟩
    cases hopens
  · intro e he request confirmation haction
    have hmem := Machine.action_mem he
    rw [haction] at hmem
    simp only [SampleRegistry.letOtherIn, List.mem_cons, NetworkEvent.request.injEq, reduceCtorEq,
      List.not_mem_nil, or_false] at hmem
    obtain ⟨rfl, -⟩ := hmem
    rintro ⟨delegation, hopens, hrecord⟩
    cases hopens
    exact absurd hrecord (by decide)
  · intro e he ⟨change, hchange⟩
    have hmem := Machine.action_mem he
    rw [hchange] at hmem
    simp [SampleRegistry.letOtherIn] at hmem

/-- A delegation that was in flight lands behind the revocation and opens the record again. -/
example :
    "profile-executive-agent-a" ∈ ((networkMachine SampleRegistry.chain).run
      SampleRegistry.revoking [
        .request ⟨SampleRegistry.delegate "agent-a" "executive", true⟩ (.ok ()),
        .lands 0, .lands 0]).records :=
  List.mem_cons_self

end RwaAgents
