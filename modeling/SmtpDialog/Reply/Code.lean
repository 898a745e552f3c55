/- digest: The reply codes of the dialog. -/

set_option autoImplicit false
set_option relaxedAutoImplicit false

namespace SmtpDialog

inductive Code
  | commandSyntaxError | parameterSyntaxError | commandNotImplemented | badSequenceOfCommands
  | commandParameterNotImplemented | systemStatus | helpMessage | serviceReady | serviceClosing
  | serviceNotAvailableClosing | ok | willForward | cannotVerify | unableToAccommodateParameters
  | mailOrRecipientParametersNotKnown | actionNotTakenTemporary | actionNotTakenPermanent
  | actionAborted | userNotLocal | insufficientStorage | exceededStorageAllocation
  | mailboxNameNotAllowed | startMailInput | transactionFailed | authenticationSucceeded
  | serverChallenge | passwordTransitionNeeded | temporaryAuthenticationFailure
  | authenticationRequired | authenticationMechanismTooWeak | authenticationCredentialsInvalid
  | encryptionRequiredForRequestedAuthenticationMechanism
  deriving DecidableEq

namespace Code

def number : Code → Nat
  | commandSyntaxError => 500
  | parameterSyntaxError => 501
  | commandNotImplemented => 502
  | badSequenceOfCommands => 503
  | commandParameterNotImplemented => 504
  | systemStatus => 211
  | helpMessage => 214
  | serviceReady => 220
  | serviceClosing => 221
  | serviceNotAvailableClosing => 421
  | ok => 250
  | willForward => 251
  | cannotVerify => 252
  | unableToAccommodateParameters => 455
  | mailOrRecipientParametersNotKnown => 555
  | actionNotTakenTemporary => 450
  | actionNotTakenPermanent => 550
  | actionAborted => 451
  | userNotLocal => 551
  | insufficientStorage => 452
  | exceededStorageAllocation => 552
  | mailboxNameNotAllowed => 553
  | startMailInput => 354
  | transactionFailed => 554
  | authenticationSucceeded => 235
  | serverChallenge => 334
  | passwordTransitionNeeded => 432
  | temporaryAuthenticationFailure => 454
  | authenticationRequired => 530
  | authenticationMechanismTooWeak => 534
  | authenticationCredentialsInvalid => 535
  | encryptionRequiredForRequestedAuthenticationMechanism => 538

def isPositive (code : Nat) : Bool := 200 ≤ code && code ≤ 299

/-- Whether the server closes the connection after a reply with this code. -/
def closes (code : Nat) : Bool := code == serviceClosing.number ||
  code == serviceNotAvailableClosing.number

end Code
end SmtpDialog
