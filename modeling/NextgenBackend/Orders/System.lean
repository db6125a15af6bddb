import NextgenBackend.Api.RoutesOrders.Lifecycle
import NextgenBackend.Bot.Pipeline
import NextgenBackend.Inventory.System
import NextgenBackend.Worker

namespace NextgenBackend.Orders

open Txn Inventory

inductive OrderRequest where
  | stock (request : StockRequest)
  | updateOrderStatus (user : AuthUser) (orderId : Uuid) (body : RoutesOrders.StatusUpdateRequest)
      (link : Option String)
  | setDeliveryFee (user : AuthUser) (orderId : Uuid) (body : RoutesOrders.DeliveryFeeRequest)
  | cancelStaleDeliveryFeeOrders
  | cancelUnpaidOrders
  | inboundMessage (message : Bot.InboundMessage)

inductive OrderReply where
  | stock (reply : StockReply)
  | order (order : Order)
  | finished

def wrap {α : Type} (f : α → OrderReply) (handler : Handler α) : Handler OrderReply :=
  handler.bind fun a => .done (f a)

def serve : OrderRequest → Handler OrderReply
  | .stock request => wrap .stock (handleStock request)
  | .updateOrderStatus user orderId body link =>
      wrap .order (RoutesOrders.updateOrderStatus user orderId body link)
  | .setDeliveryFee user orderId body =>
      wrap .order (RoutesOrders.setDeliveryFee user orderId body)
  | .cancelStaleDeliveryFeeOrders =>
      wrap (fun _ => .finished) (Worker.runJob Worker.cancelStaleDeliveryFeeOrders)
  | .cancelUnpaidOrders => wrap (fun _ => .finished) (Worker.runJob Worker.cancelUnpaidOrders)
  | .inboundMessage message =>
      wrap (fun _ => .finished) (Bot.processInboundMessage message)

abbrev Server (ι : Type) :=
  Interleaving.Config ι Database RowKey CommitSite Failure OrderReply

def serving {ι : Type} (db : Database) (requests : ι → OrderRequest) : Server ι :=
  Interleaving.start db fun i => serve (requests i)

theorem wrap_run {α : Type} {f : α → OrderReply} {x : Handler α} {db db' : Database}
    {r : Except Failure OrderReply} {Q : Database → Prop} (h : x.Ensures db fun _ db' => Q db')
    (hr : (wrap f x).run db = (r, db')) : Q db' := by
  have hbind : (wrap f x).Ensures db fun _ db' => Q db' := by
    apply ensures_bind.mpr
    apply h.mono
    intro r db' hq
    cases r with
    | ok a => exact hq
    | error e => exact hq
  exact hbind.elim hr

inductive Event where
  | served (request : OrderRequest) (reply : Except Failure OrderReply)
  | environment

def Next (serves : OrderRequest → Prop) (env : Database → Database → Prop) (db : Database)
    (event : Event) (db' : Database) : Prop :=
  match event with
  | .served request reply => serves request ∧ (serve request).run db = (reply, db')
  | .environment => env db db'

def played (db : Database) : List OrderRequest → List (Event × Database)
  | [] => []
  | request :: requests =>
      let (r, db') := (serve request).run db
      (.served request r, db') :: played db' requests

theorem along_played {serves : OrderRequest → Prop} {env : Database → Database → Prop}
    {db : Database} {requests : List OrderRequest} (h : ∀ request ∈ requests, serves request) :
    Run.Along (Next serves env) db (played db requests) := by
  induction requests generalizing db with
  | nil => trivial
  | cons request requests ih =>
      have hrest := fun r hr => h r (List.mem_cons_of_mem _ hr)
      exact ⟨⟨h request List.mem_cons_self, rfl⟩, ih hrest⟩

end NextgenBackend.Orders
