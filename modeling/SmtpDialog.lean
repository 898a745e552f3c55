import SmtpDialog.Config.Load
import SmtpDialog.Transport.Serve
import SmtpDialog.Proofs.Unlogged
import SmtpDialog.Proofs.Standard
import SmtpDialog.Proofs.Step
import SmtpDialog.Proofs.Consume
import SmtpDialog.Proofs.Run
import SmtpDialog.Proofs.Order
import SmtpDialog.Proofs.Serving
import SmtpDialog.Proofs.MailLife
import SmtpDialog.Proofs.Greeted
import SmtpDialog.Proofs.Transfer
import SmtpDialog.Proofs.Reading
import SmtpDialog.Proofs.Turns
import SmtpDialog.Proofs.Dialog
import SmtpDialog.Proofs.Transparency
import SmtpDialog.Proofs.Utf8
import SmtpDialog.Proofs.Credentials
import SmtpDialog.Proofs.Exchanges
import SmtpDialog.Proofs.Authentication
import SmtpDialog.Proofs.Since
import SmtpDialog.Proofs.Mirror
import SmtpDialog.Proofs.Lockstep
import SmtpDialog.Proofs.Civil
import SmtpDialog.Proofs.Handshake
import SmtpDialog.Proofs.Ordinary
import SmtpDialog.Proofs.Occurrences
import SmtpDialog.Proofs.Tenures
import SmtpDialog.Proofs.Plaintext
import SmtpDialog.Proofs.Base64
import SmtpDialog.Proofs.Conduct
import SmtpDialog.Proofs.ReplyLines
import SmtpDialog.Proofs.Answers
import SmtpDialog.Proofs.Output
import SmtpDialog.Proofs.Refusals
import SmtpDialog.Proofs.IllFormed
import SmtpDialog.Proofs.Interruptions
import SmtpDialog.Proofs.InStep
import SmtpDialog.Proofs.ReplyReader
import SmtpDialog.Proofs.Recipients
import SmtpDialog.Proofs.Attribution
import SmtpDialog.Proofs.Registry
import SmtpDialog.Proofs.Offers
import SmtpDialog.Proofs.Consultation
import SmtpDialog.Proofs.Brackets
import SmtpDialog.Proofs.Envelope
import SmtpDialog.Proofs.DeclaredSize
import SmtpDialog.Proofs.Spelling
import SmtpDialog.Proofs.Contributions
import SmtpDialog.Proofs.Requests
import SmtpDialog.Proofs.Logins
import SmtpDialog.Proofs.Views
import SmtpDialog.Proofs.Slices
import SmtpDialog.Proofs.Pass
import SmtpDialog.Proofs.DeadStates
import SmtpDialog.Proofs.LogRecords
import SmtpDialog.Proofs.Standing
import SmtpDialog.Proofs.Registrations
