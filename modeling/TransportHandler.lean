import TransportHandler.Handler.Sol
import TransportHandler.Proofs.DhcpMode
import TransportHandler.Proofs.GatewayMac
import TransportHandler.Proofs.Ipv4
import TransportHandler.Proofs.Isolation
import TransportHandler.Proofs.VlanWord
import TransportHandler.Proofs.StaticSlots
import TransportHandler.Proofs.Frames
import TransportHandler.Proofs.Latch
import TransportHandler.Proofs.VlanReplay
import TransportHandler.Proofs.SolStore
import TransportHandler.Proofs.Interface
import TransportHandler.Proofs.Router
import TransportHandler.Proofs.VlanId
import TransportHandler.Proofs.Confinement
import TransportHandler.Proofs.Physical
