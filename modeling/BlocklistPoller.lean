import BlocklistPoller.Backend
import BlocklistPoller.FanOut
import BlocklistPoller.Resolver
import BlocklistPoller.TenantBlocks
import BlocklistPoller.Incremental
import BlocklistPoller.Reaper
import BlocklistPoller.TenantPoller
import BlocklistPoller.Cycle
import BlocklistPoller.Outcome
import BlocklistPoller.Runs
import BlocklistPoller.Deployment
import BlocklistPoller.Fixpoint
import BlocklistPoller.Metrics
import BlocklistPoller.IndexMetrics
