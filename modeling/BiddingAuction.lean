import BiddingAuction.Attestation.PerSite
import BiddingAuction.Bidding.ByobFinish
import BiddingAuction.Bidding.PasFinish
import BiddingAuction.Bidding.UdfAgreement
import BiddingAuction.Bidding.UdfOutput
import BiddingAuction.BuyerFrontEnd.GetBidsFinish
import BiddingAuction.BuyerFrontEnd.MalformedSignals
import BiddingAuction.BuyerFrontEnd.PreparedGroups
import BiddingAuction.BuyerFrontEnd.PriorityVector
import BiddingAuction.Cache.BatchInsert
import BiddingAuction.Cache.ServedValues
import BiddingAuction.Chaffing.GeneratorSafety
import BiddingAuction.Chaffing.MovingMedian
import BiddingAuction.Chaffing.TrafficSizes
import BiddingAuction.Chaffing.Transcoding
import BiddingAuction.Common.TaskRuns
import BiddingAuction.ComponentAuction.Ciphertexts
import BiddingAuction.DataFetch.ReportingUdfOwners
import BiddingAuction.DataFetch.UrlFetcher
import BiddingAuction.Egress.Recovery
import BiddingAuction.Http.AnsweredOnce
import BiddingAuction.Http.LinkedQueue
import BiddingAuction.Http.NoQueueAnswers
import BiddingAuction.Http.QueueRefinement
import BiddingAuction.Inference.BatchIsolation
import BiddingAuction.Inference.Cancellation
import BiddingAuction.Inference.ModelRecovery
import BiddingAuction.Inference.ModelStore
import BiddingAuction.Inference.RequestTotality
import BiddingAuction.Inference.ServedModels
import BiddingAuction.Inference.TensorContent
import BiddingAuction.KAnon.Freshness
import BiddingAuction.KeyValue.LookupUrls
import BiddingAuction.KeyValue.V2Requests
import BiddingAuction.PrivateAggregation.CustomEvents
import BiddingAuction.PrivateAggregation.GhostSignals
import BiddingAuction.PrivateAggregation.PostAuctionNumbers
import BiddingAuction.PrivateAggregation.ScriptDocument
import BiddingAuction.Reporting.NoiseDistribution
import BiddingAuction.Reporting.Rounding
import BiddingAuction.Reporting.UdfResponses
import BiddingAuction.ScoreAds.DebugCoverage
import BiddingAuction.ScoreAds.DebugLimits
import BiddingAuction.ScoreAds.OtherBids
import BiddingAuction.ScoreAds.PrivateAggregation
import BiddingAuction.ScoreAds.ResponseReads
import BiddingAuction.ScoreAds.Rpc
import BiddingAuction.ScoreAds.ScoreAdInputs
import BiddingAuction.ScoreAds.TrustedSignals
import BiddingAuction.SelectAd.BiddingGroups
import BiddingAuction.SelectAd.BuyerInputSafety
import BiddingAuction.SelectAd.ChaffHiding
import BiddingAuction.SelectAd.CompressedConfig
import BiddingAuction.SelectAd.CurrencyFilter
import BiddingAuction.SelectAd.DebugLimits
import BiddingAuction.SelectAd.GhostWinners
import BiddingAuction.SelectAd.PrevWins
import BiddingAuction.SelectAd.ReactorOptions
import BiddingAuction.SelectAd.ValidationOutcome
import BiddingAuction.Web.Canonical
