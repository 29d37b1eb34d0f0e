import Coinbend.Library.Dict
import Coinbend.Library.Machine
import Coinbend.Library.Outcome
import Coinbend.Library.Saturation
import Coinbend.Database.Transactions
import Coinbend.Trade.Matching
import Coinbend.Trade.Rows
import Coinbend.Microtransfer.Credit
import Coinbend.Microtransfer.Exposure
import Coinbend.Microtransfer.Bookkeeping
import Coinbend.Microtransfer.Conservation
import Coinbend.Protocol.Rejection
import Coinbend.Protocol.RefundFirst
import Coinbend.Protocol.Deals
import Coinbend.Protocol.TradingFrame
import Coinbend.Protocol.ChunkPlan
import Coinbend.Protocol.Precision
import Coinbend.Microtransfer.State
import Coinbend.Microtransfer.Validation
import Coinbend.Microtransfer.ValidSetup
import Coinbend.Server.Links
import Coinbend.Server.FeeAgreement
import Coinbend.Library.Numerals
import Coinbend.Protocol.ContractText
import Coinbend.Currency.Assignments
import Coinbend.Currency.Reading
import Coinbend.Trade.Ledger
import Coinbend.Trade.FeeReturn
import Coinbend.Protocol.LockTime
import Coinbend.Network.LineBuffer
import Coinbend.Network.Sock
import Coinbend.Network.Replies
import Coinbend.Network.SeenMessages
import Coinbend.Transaction.Compare
import Coinbend.Transaction.Address
import Coinbend.Transaction.PrivateKey
import Coinbend.Microtransfer.LoadInputs
import Coinbend.Trade.FindMatches
import Coinbend.Exchange.TrimmedMean
import Coinbend.Transaction.EcdsaCrypt
import Coinbend.Protocol.SetupReply
import Coinbend.Protocol.Routes
import Coinbend.Protocol.ContractTrip
import Coinbend.Exchange.VoteOrder
import Coinbend.Rendezvous.Defs
import Coinbend.Rendezvous.Cleanup
import Coinbend.Rendezvous.Candidates
import Coinbend.Rendezvous.Bootstrap
import Coinbend.Library.Packing
import Coinbend.Library.InetText
import Coinbend.Rendezvous.DeltaTest
import Coinbend.Network.Locator
import Coinbend.Coins.PasswordComplexity
import Coinbend.Library.Fields
import Coinbend.Coins.UsernameComplexity
import Coinbend.Coins.CoinConfig
import Coinbend.Coins.ConfigPatch
import Coinbend.Protocol.Complementary
import Coinbend.Monitor.Fraud
