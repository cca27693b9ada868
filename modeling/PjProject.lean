import PjProject.Transition
import PjProject.TsxTypes
import PjProject.TsxTransport
import PjProject.TsxHandlers
import PjProject.TsxOrder
import PjProject.TsxTimeout
import PjProject.TsxInterval
import PjProject.TsxFailedSend
import PjProject.HashTable
import PjProject.PjString
import PjProject.PjHash
import PjProject.TsxRegistry
import PjProject.TsxKey
import PjProject.Framing
import PjProject.ParserMonad
import PjProject.Scanner
import PjProject.FindMsg
import PjProject.StreamTransport
import PjProject.ExchangeSort
import PjProject.Sdp
import PjProject.SdpAnswer
import PjProject.SdpOffer
import PjProject.SdpOfferPairs
import PjProject.SdpOfferRtpmap
import PjProject.SdpOfferLaw
import PjProject.Websock
import PjProject.WebsockRead
import PjProject.WebsockFragment
import PjProject.WebsockCodec
import PjProject.WebsockFinal
import PjProject.RingWindow
import PjProject.Jbuf
import PjProject.JbufWindow
import PjProject.JbufInvariant
import PjProject.JbufRun
import PjProject.JbufPeek
import PjProject.JbufDelivery
import PjProject.JbufPut
import PjProject.JbufRemove
import PjProject.JbufAdapt
import PjProject.JbufPrefetch
import PjProject.IndexedHeap
import PjProject.TimerHeap
import PjProject.TimerRun
import PjProject.TimerFire
import PjProject.SdpText
import PjProject.SdpTextForm
import PjProject.SdpTextRound
import PjProject.SdpPtMap
import PjProject.SdpCmp
import PjProject.SdpNeg
import PjProject.SdpNegVersion
import PjProject.SdpNegRevert
import PjProject.SdpPtAssign
import PjProject.SdpPtRename
import PjProject.SdpPtLaw
import PjProject.ByteOrder
import PjProject.StunAttr
import PjProject.StunMsg
import PjProject.StunAttrRound
import PjProject.StunRound
import PjProject.StunLaw
import PjProject.StunOrder
import PjProject.Base64
import PjProject.BoundedWrite
import PjProject.StunBuf
import PjProject.StunBufAttr
import PjProject.StunBufRefine
import PjProject.StunBounds
import PjProject.StunAuth
import PjProject.IceRole
import PjProject.SelectionSort
import PjProject.Sieve
import PjProject.IceChecklist
import PjProject.IceChecklistLaw
import PjProject.IceSession
import PjProject.IcePairing
import PjProject.IceUpdate
import PjProject.IceMoves
import PjProject.IceFoundation
import PjProject.IceCompletion
import PjProject.LinkedTree
import PjProject.RbTree
import PjProject.RbTreeLinks
import PjProject.RbTreeFixup
import PjProject.RbTreeOps
import PjProject.RbTreeRefine
import PjProject.RbTreeBalance
import PjProject.RbTreeEraseBalance
import PjProject.Rel100
import PjProject.Rel100Law
import PjProject.DnsQuery
import PjProject.DnsQueryNodes
import PjProject.DnsQueryLaw
import PjProject.DnsCache
import PjProject.DnsCacheLaw
import PjProject.SessionTimer
import PjProject.SessionTimerLaw
import PjProject.UaLayer
import PjProject.UaLayerLaw
import PjProject.UaMatch
import PjProject.Dialog
import PjProject.DialogCount
import PjProject.DialogCseq
import PjProject.StunTsx
import PjProject.StunTsxInv
import PjProject.StunTsxPace
import PjProject.StunTsxLaw
import PjProject.TurnStream
import PjProject.TurnStreamRead
import PjProject.TurnStreamLaw
import PjProject.TurnSession
import PjProject.TurnSessionLaw
import PjProject.TurnSessionEnd
import PjProject.SrvResolver
import PjProject.SrvResolverBuild
import PjProject.SrvResolverLaw
import PjProject.SrvResolverOnce
import PjProject.SrvOrder
import PjProject.MultipartPrint
import PjProject.MultipartBounds
import PjProject.MultipartBoundsLaw
import PjProject.MultipartLines
import PjProject.MultipartRound
import PjProject.Evsub
import PjProject.SipParser
import PjProject.SipParserProgress
import PjProject.SipParserFold
import PjProject.SipParserNum
import PjProject.SipParserQ
import PjProject.FirstMatch
import PjProject.SipUri
import PjProject.SipUriParser
import PjProject.SipHdrParser
import PjProject.SipHdrProgress
import PjProject.SipMsgParser
import PjProject.SipMsgProgress
import PjProject.RtpSeq
import PjProject.Rtcp
import PjProject.RtcpReport
import PjProject.RtcpParse
import PjProject.RtcpParseLaw
import PjProject.RtcpSdesRound
import PjProject.SessionTimerBounds
import PjProject.SessionTimerRequire
import PjProject.Rel100Uac
import PjProject.Rel100UacLaw
import PjProject.DnsRecord
import PjProject.DnsMakeQuery
import PjProject.ScannerUnescape
import PjProject.StunCheck
import PjProject.StunDecode
import PjProject.JsonRound
import PjProject.PjHashTableLaw
import PjProject.TimerGrowth
import PjProject.H264UnpackLaw
import PjProject.StrEscape
import PjProject.RingMemory
import PjProject.CircBuf
import PjProject.CircBufLaw
import PjProject.FifoBuf
import PjProject.FifoBufLaw
import PjProject.RtcpFb
import PjProject.RtcpFbLaw
import PjProject.ScanCursor
import PjProject.ScanCursorLaw
import PjProject.DelayBuf
import PjProject.RunningCount
import PjProject.StepBudget
import PjProject.AuthClient
import PjProject.AuthCount
import PjProject.AuthRetry
import PjProject.TurnKeepAlive
import PjProject.EvsubTimers
import PjProject.OutputLog
import PjProject.InvAck
import PjProject.InvAckLaw
import PjProject.ArcLists
import PjProject.Conference
import PjProject.ConferenceGraph
import PjProject.ConferenceQueue
import PjProject.ConferenceLaw
import PjProject.MemoryPool
import PjProject.MemoryPoolLaw
