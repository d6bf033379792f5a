import ClusterStack.Cluster.Task
import ClusterStack.Text.Table
/-!
# Rows of the list of containers

A container as it is shown: named after its task, with its state, its ports and where they can be
reached, what it was started from and whether it works. The rows are set out in a table.
-/
namespace ClusterStack.Cluster

structure ContainerRow where
  name : String
  state : String
  ports : String
  definition : String
  health : String
  deriving DecidableEq, Repr

/-- The state of a container. One that stopped tells how and why, as far as that is known. -/
def Container.state (c : Container) : String :=
  let status := Text.shownIfGiven c.status
  if status == stopped then
    status ++ (c.exitCode.map fun n => s!" ExitCode: {n}").getD "" ++
      (c.reason.map fun why => s!" Reason: {why}").getD ""
  else status

def orElse (s other : String) : String := if s == "" then other else s

/-- A binding as it is shown. The address of the instance takes precedence over that of the binding,
and a binding without any address is shown without one. -/
def PortBinding.shown (instanceAddress : String) (b : PortBinding) : String :=
  let protocol := orElse (Text.shownIfGiven b.protocol) "tcp"
  let address := orElse instanceAddress (Text.shownIfGiven b.address)
  let ports := s!"{b.hostPort.getD 0}->{b.containerPort.getD 0}/{protocol}"
  if address == "" then ports else s!"{address}:{ports}"

namespace ContainerRow

def title : String := "ContainerInfo"

def check : Validation.Check ContainerRow :=
  Validation.object fun members =>
    ContainerRow.mk <$> Validation.required members ["name"] Validation.string
      <*> Validation.required members ["state"] Validation.string
      <*> Validation.required members ["ports"] Validation.string
      <*> Validation.required members ["task_definition"] Validation.string
      <*> Validation.required members ["health"] Validation.string

/-- A container of a task on an instance with this address, which is empty if it is not known. -/
def ofContainer (instanceAddress : String) (task : Task) (c : Container) : ContainerRow where
  name := s!"{shortId task.arn.toString}/{c.name}"
  state := c.state
  ports := ", ".intercalate (c.bindings.map (PortBinding.shown instanceAddress))
  definition := shortId (Text.shownIfGiven task.definition)
  health := Text.shownIfGiven c.health

def columns : List String := ["Name", "State", "Ports", "TaskDefinition", "Health"]

def cells (row : ContainerRow) : List String :=
  [row.name, row.state, row.ports, row.definition, row.health]

end ContainerRow

def ContainerRow.table (rows : List ContainerRow) : String :=
  Text.Table.text (ContainerRow.columns :: rows.map ContainerRow.cells)

end ClusterStack.Cluster
