import Patala.Lib.Machine
import Patala.Lib.Reader
import Patala.Lib.Tally
import Patala.Lib.Submissions
import Patala.Lib.Decimal
import Patala.Core.Numbers
import Patala.Core.FailoverPayment
import Patala.Core.FailoverDispatch
import Patala.Core.Destination
import Patala.Lib.History
import Patala.Fiat.Currency
import Patala.Fiat.CurrencyDecimal
import Patala.Fiat.PayPalAmount
import Patala.Fiat.WireAmounts
import Patala.Core.Mock
import Patala.Fiat.Manual
import Patala.Fiat.ManualAddressing
import Patala.Fiat.ManualSettlement
import Patala.Fiat.ManualAudit
import Patala.Fiat.Registry
import Patala.Fiat.OfflineWebhook
import Patala.Fiat.WebhookLaw
import Patala.Fiat.XenditInvoices
import Patala.Json.Value
import Patala.Json.Stringify
import Patala.Lib.Codec
import Patala.Solana.Binding
import Patala.Solana.Transaction
import Patala.Solana.Verify
import Patala.Solana.Ledger
import Patala.Solana.Instance
import Patala.Solana.Exactness
import Patala.Solana.Redemption
import Patala.Solana.Entitlement
import Patala.Lib.Base32
import Patala.Lib.Base58
import Patala.Solana.Message
import Patala.Solana.MessageFormat
import Patala.Solana.Destination
import Patala.Stellar.StrKey
import Patala.Stellar.Destination
import Patala.Stellar.Stroops
import Patala.Solana.Charge
import Patala.Solana.Completeness
import Patala.Stellar.Config
import Patala.Stellar.Tx
import Patala.Stellar.TxFacts
import Patala.Stellar.Verify
import Patala.Stellar.Checks
import Patala.Stellar.Instance
import Patala.Stellar.VerifySoundness
import Patala.Stellar.SplitSoundness
import Patala.Stellar.MemoBinding
import Patala.Stellar.RoundTrip
import Patala.Stellar.Redemption
import Patala.Stellar.Charge
import Patala.Stellar.Completeness
import Patala.Stellar.Account
import Patala.Stellar.Pacing
import Patala.Stellar.Cancellation
import Patala.Fiat.Http
import Patala.Fiat.Stripe
import Patala.Fiat.CheckoutCom
import Patala.Fiat.Mollie
import Patala.Fiat.BTCPay
import Patala.Fiat.Reference
import Patala.Fiat.Square
import Patala.Lib.UrlPath
import Patala.Fiat.PathSegment
import Patala.Fiat.Paystack
import Patala.Fiat.Flutterwave
import Patala.Fiat.MercadoPago
import Patala.Fiat.UnderPayment
import Patala.Fiat.LNbits
import Patala.Fiat.PayPal
import Patala.Fiat.VerifyErrors
import Patala.Hyperswitch.Rail
import Patala.Hyperswitch.Completeness
import Patala.Hyperswitch.Soundness
import Patala.Fiat.Webhook
import Patala.Hyperswitch.Webhook
import Patala.Fiat.LNbitsSoundness
import Patala.Lib.Joined
import Patala.Fiat.Adyen
import Patala.Fiat.Numeral
import Patala.Fiat.FormBody
import Patala.Fiat.PayU
import Patala.Fiat.Midtrans
import Patala.Fiat.MollieWebhook
import Patala.Fiat.WebhookAuthenticity
import Patala.Lib.Dedup
import Patala.Fiat.CoinbaseCommerce
import Patala.Fiat.WebhookDedup
import Patala.Ffi.Webhook
import Patala.Sidecar.Webhook
import Patala.Fiat.PayPalCapture
import Patala.Fiat.Refund
import Patala.Fiat.RefundAmount
import Patala.Lib.UrlName
import Patala.Fiat.Xendit
import Patala.Fiat.ReferenceCompleteness
import Patala.Fiat.PayFast
import Patala.Fiat.PayFastSignature
import Patala.Fiat.TimestampedSignature
import Patala.Fiat.AdyenBatch
import Patala.Fiat.Iyzico
import Patala.Fiat.OpenNode
import Patala.Stellar.Validity
import Patala.Core.MockDestination
import Patala.Fiat.Quotes
import Patala.Ffi.Encode
import Patala.Ffi.Call
import Patala.Fiat.Destination
import Patala.Fiat.PayFastCharge
import Patala.Core.Lossy
import Patala.Fiat.FormDecoders
import Patala.Ffi.HandleUse
import Patala.Ffi.Open
import Patala.Ffi.Served
import Patala.Sidecar.Api
import Patala.Sidecar.InProcess
import Patala.Fiat.CoinbaseCharge
import Patala.Fiat.IyzicoCheckout
import Patala.Fiat.LookupRails
import Patala.Fiat.AdyenRail
import Patala.Fiat.Conduct
import Patala.Fiat.Retries
import Patala.Fiat.FetchedWebhooks
import Patala.Fiat.PushCredits
import Patala.Fiat.PushPoll
import Patala.Lib.Crc
import Patala.Stellar.Checksum
import Patala.Stellar.Typos
