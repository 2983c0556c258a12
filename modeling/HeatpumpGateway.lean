import HeatpumpGateway.Lib.Dict
import HeatpumpGateway.Lib.Dialogue
import HeatpumpGateway.Lib.Stuffing
import HeatpumpGateway.Model.Python
import HeatpumpGateway.Model.Channel
import HeatpumpGateway.Model.Parser
import HeatpumpGateway.Model.Connector
import HeatpumpGateway.Model.Communication
import HeatpumpGateway.Model.Service
import HeatpumpGateway.Model.Simulator
import HeatpumpGateway.Proofs.Escape
import HeatpumpGateway.Proofs.Receive
import HeatpumpGateway.Proofs.Exchange
import HeatpumpGateway.Proofs.Frame
import HeatpumpGateway.Proofs.Truncation
import HeatpumpGateway.Lib.Fallible
import HeatpumpGateway.Proofs.Compose
import HeatpumpGateway.Proofs.Write
import HeatpumpGateway.Proofs.Overlap
import HeatpumpGateway.Proofs.Read
import HeatpumpGateway.Proofs.Faults
import HeatpumpGateway.Lib.Rounding
import HeatpumpGateway.Lib.Floating
import HeatpumpGateway.Proofs.Doubles
import HeatpumpGateway.Proofs.Decode
import HeatpumpGateway.Proofs.Quantise
import HeatpumpGateway.Lib.Locked
import HeatpumpGateway.Proofs.Device
import HeatpumpGateway.Proofs.Registers
import HeatpumpGateway.Proofs.Grouping
import HeatpumpGateway.Proofs.Store
import HeatpumpGateway.Proofs.Calls
import HeatpumpGateway.Proofs.ValueMap
import HeatpumpGateway.Proofs.Loss
import HeatpumpGateway.Proofs.Extent
import HeatpumpGateway.Proofs.Sweep
import HeatpumpGateway.Proofs.Escaping
import HeatpumpGateway.Proofs.Corruption
import HeatpumpGateway.Proofs.Fresh
import HeatpumpGateway.Proofs.Acknowledge
import HeatpumpGateway.Proofs.Coercion
import HeatpumpGateway.Proofs.Refusal
import HeatpumpGateway.Proofs.Clock
import HeatpumpGateway.Proofs.Counter
import HeatpumpGateway.Proofs.Connection
import HeatpumpGateway.Proofs.Bits
import HeatpumpGateway.Proofs.Carriage
import HeatpumpGateway.Proofs.Flags
import HeatpumpGateway.Proofs.Order
import HeatpumpGateway.Model.Api
import HeatpumpGateway.Proofs.Kind
import HeatpumpGateway.Proofs.Lookup
import HeatpumpGateway.Proofs.Footer
import HeatpumpGateway.Proofs.Bounded
import HeatpumpGateway.Proofs.Seeding
import HeatpumpGateway.Proofs.Encoders
import HeatpumpGateway.Proofs.Routing
import HeatpumpGateway.Proofs.Scaling
import HeatpumpGateway.Proofs.Requests
import HeatpumpGateway.Lib.Partition
import HeatpumpGateway.Lib.Pipeline
import HeatpumpGateway.Lib.Budget
import HeatpumpGateway.Model.Transport
import HeatpumpGateway.Model.Loader
import HeatpumpGateway.Proofs.Parts
import HeatpumpGateway.Proofs.Reader
import HeatpumpGateway.Proofs.Routes
import HeatpumpGateway.Proofs.Statuses
import HeatpumpGateway.Proofs.Lifespan
import HeatpumpGateway.Proofs.Rest
import HeatpumpGateway.Proofs.Whole
import HeatpumpGateway.Proofs.Effort
import HeatpumpGateway.Proofs.Wedged
import HeatpumpGateway.Proofs.Spelling
import HeatpumpGateway.Proofs.Gateway
