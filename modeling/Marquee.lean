import Marquee.Main
import Marquee.Frame.Receiver
import Marquee.Proofs.Receiving
import Marquee.Proofs.FrameLanguage
import Marquee.Proofs.FrameStream
import Marquee.Proofs.DegreeScan
import Marquee.Proofs.MessageReading
import Marquee.Proofs.CharacterBytes
import Marquee.Proofs.Words
import Marquee.Proofs.Tokens
import Marquee.Proofs.MessageBytes
import Marquee.Proofs.Checks
import Marquee.Proofs.CommandIntegrity
import Marquee.Proofs.TagLanguage
import Marquee.Proofs.PayloadUniqueness
import Marquee.Proofs.Delivery
import Marquee.Proofs.DumpAgreement
import Marquee.Proofs.CanonicalWire
import Marquee.Proofs.SendTrace
import Marquee.Proofs.LimitedDelivery
import Marquee.Proofs.PartialDelivery
import Marquee.Proofs.FirstFault
import Marquee.Proofs.BufferedReceiver
import Marquee.Proofs.FrameOrigin
import Marquee.Proofs.MessageArguments
import Marquee.Proofs.ControlBytes
import Marquee.Proofs.MessageCut
import Marquee.Proofs.WriteGaps
import Marquee.Proofs.DescriptorGrammar
import Marquee.Proofs.FirstMisfit
import Marquee.Proofs.LayoutRoundTrip
import Marquee.Proofs.DeliveryTime
import Marquee.Proofs.SettingGrammar
import Marquee.Proofs.WordBytes
import Marquee.Proofs.TextUniqueness
import Marquee.Proofs.CharsetDifference
import Marquee.Proofs.TagRewriting
import Marquee.Proofs.MessageGrowth
import Marquee.Proofs.BlockCount
import Marquee.Proofs.TokenGrammar
import Marquee.Proofs.PiecewiseReceiving
import Marquee.Proofs.ActionInputs
import Marquee.Proofs.SettingsOverlay
import Marquee.Proofs.SwitchReading
import Marquee.Proofs.RequiredArguments
import Marquee.Proofs.ReservedLabels
import Marquee.Proofs.HeaderTexts
import Marquee.Proofs.DegreeBuffer
