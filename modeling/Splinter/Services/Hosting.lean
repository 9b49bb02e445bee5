import Splinter.Admin.Service
import Splinter.Scabbard.Service
import Splinter.Service.Orchestrator
import Splinter.Service.Processor

/-!
# What stops a service host

The orchestrator and the processor compared: a message that cannot be read, and
an error of one service, stop the whole orchestrator, whereas an error of a
service stops only the thread of this service in a processor.
-/

namespace Splinter.Service

open Library Circuits.Protos ServiceOrchestrator ServiceProcessor

/-- An orchestrator serves all later messages exactly if every message could be
read, no expected reply was abandoned and no service returned an error; a
processor serves all later messages of a service exactly if this service
returned no error.  The threads of both always come to rest. -/
theorem hosts_reliable_iff (codecs : Codecs) :
    (∀ services path last, services ≠ [] →
      Run (ServiceOrchestrator.Step codecs services) .new path last →
        (ServiceOrchestrator.Reliable codecs services last ↔
          Run.Meets (ServiceOrchestrator.Harmless codecs services) path) ∧
        ∀ later reached, Run (ServiceOrchestrator.Step codecs services) last later reached →
            Run.Meets (fun _ event => event.Internal) later → later.length ≤ last.work) ∧
    ∀ hosted serviceId path last, serviceId ∈ hosted →
      Run (ServiceProcessor.Step codecs hosted) .new path last →
        (ServiceProcessor.Reliable codecs hosted serviceId last ↔
          Run.Meets (ServiceProcessor.Harmless serviceId) path) ∧
        ∀ later reached, Run (ServiceProcessor.Step codecs hosted) last later reached →
            Run.Meets (fun _ event => event.Internal) later →
              later.length ≤ ServiceProcessor.work hosted last := by
  refine ⟨?_, ?_⟩
  · intro services path last some run
    refine ⟨reliable_iff_harmless some run, ?_⟩
    intro later reached continued internal
    have bound := Run.length_add_le work (fun _ _ _ => work_decreases) continued internal
    exact Nat.le_of_add_right_le bound
  · intro hosted serviceId path last here run
    refine ⟨reliable_iff_harmless here run, ?_⟩
    intro later reached continued internal
    have bound := Run.length_add_le (work hosted) (fun _ _ _ => work_decreases) continued internal
    exact Nat.le_of_add_right_le bound

def twoServices : List ServiceDefinition := [⟨"x", "a", "scabbard"⟩, ⟨"y", "b", "scabbard"⟩]

def plainMessage (circuit recipient : String) (payload : Bytes) : Bytes :=
  createDirectMessage .protobuf ⟨circuit, "s", recipient, payload, ""⟩

/-- What services return for a payload that they cannot parse. -/
def malformedPayload : ServiceError :=
  .invalidMessageFormat "malformed message"

/-- Whether no thread of the orchestrator can do anything. -/
def ServiceOrchestrator.isIdle (orchestrator : ServiceOrchestrator) : Bool :=
  (advance .protobuf twoServices .incoming orchestrator).isNone &&
    (advance .protobuf twoServices (.inbound (.ok ())) orchestrator).isNone

theorem ServiceOrchestrator.idle_of_isIdle {orchestrator : ServiceOrchestrator}
    (resting : orchestrator.isIdle = true) :
    Idle .protobuf twoServices orchestrator := by
  unfold isIdle at resting
  rw [Bool.and_eq_true, Option.isNone_iff_eq_none, Option.isNone_iff_eq_none] at resting
  apply idle_of_exhausted
  intro event after quiet step
  unfold Step at step
  rcases quiet with rfl | rfl
  · rw [resting.1] at step
    cases step
  · rw [resting.2] at step
    cases step

/-- Whether no thread of the processor can do anything. -/
def ServiceProcessor.isIdle (hosted : Finset String) (processor : ServiceProcessor) : Bool :=
  (advance .protobuf hosted .incoming processor).isNone &&
    (advance .protobuf hosted .inbound processor).isNone &&
    decide
      (∀ serviceId ∈ hosted,
        (advance .protobuf hosted (.service serviceId (.ok ())) processor).isNone)

theorem ServiceProcessor.idle_of_isIdle {hosted : Finset String} {processor : ServiceProcessor}
    (resting : processor.isIdle hosted = true) :
    Idle .protobuf hosted processor := by
  simp only [isIdle, Bool.and_eq_true, Option.isNone_iff_eq_none, decide_eq_true_eq] at resting
  obtain ⟨⟨incoming, inbound⟩, services⟩ := resting
  apply idle_of_exhausted
  intro event after quiet step
  cases event with
  | deliver | expectReply | abandon => cases quiet.1
  | incoming => exact nomatch incoming.symm.trans step
  | inbound => exact nomatch inbound.symm.trans step
  | service called returned =>
    obtain rfl := quiet.2 called returned rfl
    cases happened step with
    | service _ here _ _ => exact nomatch (services called here).symm.trans step

/-- Bytes that are no message stop an orchestrator, and so does a payload that
one of its services cannot parse, though the next message is for a service on
another circuit; a processor does not pass any further messages to a service
that could not parse one.  The services do return this error. -/
theorem hosts_stopped :
    (∃ path last, Run (ServiceOrchestrator.Step .protobuf twoServices) .new path last ∧
        path.map Prod.snd = [.deliver [255], .incoming, .deliver (plainMessage "y" "b" [1])] ∧
        ServiceOrchestrator.Idle .protobuf twoServices last ∧
        last.intake.network = [plainMessage "y" "b" [1]] ∧
        last.calls = []) ∧
    (∃ path last, Run (ServiceOrchestrator.Step .protobuf twoServices) .new path last ∧
        path.map Prod.snd =
          [.deliver (plainMessage "x" "a" [255]), .incoming, .inbound (.error malformedPayload),
            .deliver (plainMessage "y" "b" [1]), .incoming] ∧
        ServiceOrchestrator.Idle .protobuf twoServices last ∧
        last.calls.map Call.payload = [[255]]) ∧
    (∃ path last, Run (ServiceProcessor.Step .protobuf {"a"}) .new path last ∧ path.map Prod.snd =
          [.deliver (plainMessage "x" "a" [255]), .incoming, .inbound,
            .service "a" (.error malformedPayload),
            .deliver (plainMessage "x" "a" [1]), .incoming, .inbound] ∧
        ServiceProcessor.Idle .protobuf {"a"} last ∧
        last.calls.map Call.payload = [[255]]) ∧
    (∀ formats context service, formats.scabbardMessage = ScabbardService.ScabbardMessage.codec →
      (ScabbardService.Scabbard.handleMessage formats context [255]).run service =
        .error malformedPayload service) ∧
    ∀ around context service,
      (Admin.AdminService.handleMessage Admin.Formats.standard around context [255]).run service =
        .error malformedPayload service := by
  refine ⟨?_, ?_, ?_, ?_, ?_⟩
  · refine Run.exists_of_leads
      (fun last =>
        last.isIdle && decide (last.intake.network = [plainMessage "y" "b" [1]]) &&
          decide (last.calls = []))
      (by decide +kernel) ?_
    intro path last run labels checked
    simp only [Bool.and_eq_true, decide_eq_true_eq] at checked
    exact ⟨idle_of_isIdle checked.1.1, checked.1.2, checked.2⟩
  · refine Run.exists_of_leads
      (fun last => last.isIdle && decide (last.calls.map Call.payload = [[255]]))
      (by decide +kernel) ?_
    intro path last run labels checked
    rw [Bool.and_eq_true, decide_eq_true_eq] at checked
    exact checked.imp_left idle_of_isIdle
  · refine Run.exists_of_leads
      (fun last => last.isIdle {"a"} && decide (last.calls.map Call.payload = [[255]]))
      (by decide +kernel) ?_
    intro path last run labels checked
    rw [Bool.and_eq_true, decide_eq_true_eq] at checked
    exact checked.imp_left idle_of_isIdle
  · intro formats context service codec
    unfold ScabbardService.Scabbard.handleMessage
    rw [codec]
    rfl
  · intro around context service
    rfl

/-- Heartbeats, messages for services that are not here, replies and messages
to services that return no error are harmless. -/
theorem hosts_reliable_after_messages :
    (∃ path last, Run (ServiceOrchestrator.Step .protobuf twoServices) .new path last ∧
        path.map Prod.snd =
          [.expectReply "1" 0,
            .deliver (Codecs.protobuf.networkMessage.write ⟨.networkHeartbeat, []⟩),
            .incoming, .deliver (plainMessage "x" "c" [1]), .incoming,
            .inbound (.ok ()),
            .deliver (createDirectMessage .protobuf ⟨"x", "c", "a", [2], "1"⟩),
            .incoming, .deliver (plainMessage "y" "b" [3]), .incoming,
            .inbound (.ok ())] ∧
        ServiceOrchestrator.Reliable .protobuf twoServices last ∧
        last.calls.map Call.payload = [[3]]) ∧
    ∃ path last, Run (ServiceProcessor.Step .protobuf {"a", "b"}) .new path last ∧
        path.map Prod.snd =
          [.deliver [255], .incoming, .deliver (plainMessage "x" "b" [255]), .incoming, .inbound,
            .service "b" (.error malformedPayload),
            .deliver (plainMessage "x" "a" [1]), .incoming, .inbound,
            .service "a" (.ok ())] ∧
        ServiceProcessor.Reliable .protobuf {"a", "b"} "a" last ∧
        last.calls.map Call.payload = [[255], [1]] := by
  refine ⟨?_, ?_⟩
  · refine Run.exists_of_leads (fun last => decide (last.calls.map Call.payload = [[3]]))
      (by decide +kernel) ?_
    intro path last run labels checked
    have harmless : Run.Meets (ServiceOrchestrator.Harmless .protobuf twoServices) path := by
      refine Run.meets_of_labels labels ?_
      simp only [List.forall_mem_cons]
      refine
        ⟨fun _ => trivial, fun _ => ⟨none, rfl⟩, fun _ => trivial,
          fun _ => ⟨_, read_createDirectMessage _⟩,
          fun _ => trivial, fun _ _ _ _ _ _ => rfl,
          fun _ => ⟨_, read_createDirectMessage _⟩,
          fun _ => trivial,
          fun _ => ⟨_, read_createDirectMessage _⟩,
          fun _ => trivial, fun _ _ _ _ _ _ => rfl, nofun⟩
    refine ⟨?_, of_decide_eq_true checked⟩
    exact (((hosts_reliable_iff .protobuf).1 twoServices path last nofun run).1).mpr harmless
  · refine Run.exists_of_leads (fun last => decide (last.calls.map Call.payload = [[255], [1]]))
      (by decide +kernel) ?_
    intro path last run labels checked
    have harmless : Run.Meets (ServiceProcessor.Harmless "a") path := by
      refine Run.meets_of_labels labels ?_
      simp only [List.forall_mem_cons]
      refine
        ⟨fun _ => trivial, fun _ => trivial, fun _ => trivial, fun _ => trivial, fun _ => trivial,
          fun _ same => absurd same (by decide), fun _ => trivial,
          fun _ => trivial, fun _ => trivial, fun _ _ => rfl, nofun⟩
    refine ⟨?_, of_decide_eq_true checked⟩
    exact
      (((hosts_reliable_iff .protobuf).2 {"a", "b"} "a" path last (by decide) run).1).mpr harmless

end Splinter.Service
