import ObservableGen.Source.PropertySource
set_option autoImplicit false

/-!
An observable property written step by step on a writer that other members are written on as well.
-/
namespace ObservableGen.Source.PropertySource

def writeCallback (nullable : NullableMode) (property : Property) (writer : Writer) : Writer :=
  match property.callback with
  | none => writer
  | some callback =>
    let declared := writer.writeLine ("private " ++ delegateType property callback ++ nullable.mark ++ " "
      ++ callbackField property ++ ";")
    declared.blankLine

def writeBacking (property : Property) (writer : Writer) : Writer :=
  if property.isMethodBacked then
    writer.writeLine ("private " ++ property.valueType ++ " " ++ property.backing ++ ";")
  else writer

def writeLead (property : Property) (writer : Writer) : Writer :=
  let documented := (property.doc.getD []).foldl (fun writer line => writer.writeLine ("/// " ++ line)) writer
  property.customAttributes.foldl (fun writer text => writer.writeLine text) documented

def writeKept (property : Property) (writer : Writer) : Writer :=
  if property.usesManager then writer.writeLine ("var " ++ oldValue ++ " = " ++ property.backing ++ ";")
  else writer

def writeManager (property : Property) (writer : Writer) : Writer :=
  if property.usesManager then
    let removed := writer.writeLine (managerType ++ ".RemoveHandler(" ++ oldValue ++ ");")
    removed.writeLine (managerType ++ ".AddHandler(value);")
  else writer

def writeChange (source : PropertySource) (writer : Writer) : Writer :=
  let moved := writeManager source.property writer
  match source.raised.map NotificationArgument.text with
  | [] => moved
  | [argument] => moved.writeLine ("RaisePropertyChanged(" ++ argument ++ ");")
  | arguments => moved.writeLine ("RaisePropertiesChanged(" ++ ", ".intercalate arguments ++ ");")

def writeEffects (source : PropertySource) (writer : Writer) : Writer :=
  let tested := (writeKept source.property writer).writeLine ("if (" ++ source.setCall ++ ")")
  (source.writeChange tested.openBlock).closeBlock

def writeSetter (source : PropertySource) (writer : Writer) : Writer :=
  let lead := setterLead source.property
  if source.property.hasSetEffects then
    (source.writeEffects (writer.writeLine (lead ++ "set")).openBlock).closeBlock
  else writer.writeLine (lead ++ "set => " ++ source.setCall ++ ";")

def writeAccessors (source : PropertySource) (writer : Writer) : Writer :=
  source.writeSetter (writer.writeLine (getterLine source.property).text)

def writeFactory (property : Property) (writer : Writer) : Writer :=
  match property.command with
  | none => writer
  | some command =>
    writer.blankLine.writeLine ("private " ++ command.interfaceType ++ " Create" ++ property.name ++ "() => "
      ++ command.construction ++ ";")

def write (nullable : NullableMode) (source : PropertySource) (writer : Writer) : Writer :=
  let property := source.property
  let led := writeLead property (writeBacking property (writeCallback nullable property writer))
  let signed := led.writeLine (property.access.property.lead ++ property.valueType ++ " " ++ property.name)
  writeFactory property (source.writeAccessors signed.openBlock).closeBlock

end ObservableGen.Source.PropertySource
