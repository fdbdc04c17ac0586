import BattleBelief.Library.PythonText

/-!
# Exceptions

The exceptions that core, runtime and the policies and transports plugged into them may raise,
with the texts they carry. A computation that may raise returns `Except PyException`.

`ReducerFault` keeps the arguments of the reducer's messages apart from the message itself, so
that a proof can tell two raise sites from each other.
-/

namespace BattleBelief

variable [Python.UnicodeDatabase]

/-- The raise sites of `ReducerInvariantError`. -/
inductive ReducerFault where
  | eventIndex (received previous : Int)
  | noActive (context sideId : String)
  | nicknameMismatch (context nickname active sideId : String)
  | unresolvedTarget (nickname sideId : String) (candidates : Nat)
  | invalidSide (sideId : String)
  | unknownScope (scope : String)
  | identityNoActive (sideId : String)
  | unhandledEvent (className : String)
  deriving DecidableEq, Repr

/-- The message of a `ReducerInvariantError`. -/
def ReducerFault.text : ReducerFault → String
  | .eventIndex received previous =>
      s!"event index must increase: received {received} after {previous}"
  | .noActive context sideId =>
      s!"{context}: no active pokemon on side {Python.repr sideId}"
  | .nicknameMismatch context nickname active sideId =>
      s!"{context}: event nickname {Python.repr nickname} does not match active pokemon "
        ++ s!"{Python.repr active} on side {Python.repr sideId}"
  | .unresolvedTarget nickname sideId candidates =>
      s!"health: cannot uniquely resolve inactive fainted target {Python.repr nickname} "
        ++ s!"on side {Python.repr sideId} ({candidates} candidates)"
  | .invalidSide sideId => s!"invalid side id: {Python.repr sideId}"
  | .unknownScope scope => s!"clear_boost: unknown scope {Python.repr scope}"
  | .identityNoActive sideId => s!"identity: no active pokemon on {sideId}"
  | .unhandledEvent className => s!"unhandled event type: {className}"

/-- A raised exception: its class and what it carries.

`other` is every class the packages do not define, with its `code` attribute where it has a
string for one: policies, connections and sinks are free to raise such classes. -/
inductive PyException where
  | reducerInvariantError (fault : ReducerFault)
  | reducerInvariantFailure (text : String)
  | staleRequestIdentity (text : String)
  | localActionGateRejection (text : String)
  | noLegalActionError (text : String)
  | traceSinkFailure
  | decisionRecordConstructionFailure
  | unknownProtocolEvent (text : String)
  | malformedProtocolMessage (text : String)
  | requestStateReconciliationMismatch (text : String)
  | transportTimeout (text : String)
  | disconnect (text : String)
  | timerOrForfeit (text : String)
  | serverInvalidChoice (text : String)
  | serverUnavailableChoice (text : String)
  | valueError (text : String)
  | assertionError
  | other (className : String) (code : Option String)
  deriving DecidableEq, Repr

/-- `getattr(error, "code", "")`. -/
def PyException.code : PyException → String
  | .reducerInvariantError _ => "reducer_invariant_failure"
  | .reducerInvariantFailure _ => "reducer_invariant_failure"
  | .staleRequestIdentity _ => "stale_rqid"
  | .localActionGateRejection _ => "local_action_gate_rejection"
  | .noLegalActionError _ => "no_legal_action_available"
  | .traceSinkFailure => "trace_sink_failure"
  | .decisionRecordConstructionFailure => "decision_record_construction_failure"
  | .unknownProtocolEvent _ => "unknown_protocol_event"
  | .malformedProtocolMessage _ => "malformed_protocol_message"
  | .requestStateReconciliationMismatch _ => "request_state_reconciliation_mismatch"
  | .transportTimeout _ => "transport_timeout"
  | .disconnect _ => "disconnect"
  | .timerOrForfeit _ => "timer_or_forfeit"
  | .serverInvalidChoice _ => "server_invalid_choice"
  | .serverUnavailableChoice _ => "server_unavailable_choice"
  | .valueError _ => ""
  | .assertionError => ""
  | .other _ code => code.getD ""

end BattleBelief
