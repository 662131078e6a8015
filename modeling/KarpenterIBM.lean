import KarpenterIBM.Batcher.Delivery
import KarpenterIBM.Bootstrap.ClusterEndpoint
import KarpenterIBM.Bootstrap.EnvVars
import KarpenterIBM.Bootstrap.Tokens
import KarpenterIBM.Breaker.ConcurrencyCap
import KarpenterIBM.Breaker.HalfOpen
import KarpenterIBM.Breaker.Isolation
import KarpenterIBM.Breaker.Liveness
import KarpenterIBM.Client.RateLimit
import KarpenterIBM.CloudProvider.Labels
import KarpenterIBM.CloudProvider.ProviderIDs
import KarpenterIBM.ErrorCoherence
import KarpenterIBM.IKS.DeletionSafety
import KarpenterIBM.IKS.Honours
import KarpenterIBM.Image.Selector
import KarpenterIBM.InstanceTypes.FilterCatalog
import KarpenterIBM.LoadBalancer.Registration
import KarpenterIBM.NodeClass.PlacementCondition
import KarpenterIBM.NodeClass.ZoneCheck
import KarpenterIBM.PoolCleanup.Safety
import KarpenterIBM.Pricing.Agreement
import KarpenterIBM.UnavailableOfferings
import KarpenterIBM.VPC.NoLeak
import KarpenterIBM.VPC.NodeCache
import KarpenterIBM.VPC.SubnetChoice
import KarpenterIBM.VPC.SubnetListing
import KarpenterIBM.VPC.Tags
