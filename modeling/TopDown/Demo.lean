import TopDown.Grammar.Builder

namespace TopDown.Demo

def identifier : String := "[a-z][a-zA-Z0-9_]*"

def integer : String := "[0-9]+"

def decimal : String := "[0-9]+\\.[0-9]+"

def word : String := "[a-zA-Z0-9_]+"

def program : String :=
  "fin\n" ++
  "palabra suma, numero1, numero2;\n" ++
  "entero numero_decimal;\n" ++
  "quiza bandera;\n" ++
  "bandera = verdadero;\n" ++
  "numero_decimal = 3.14;\n" ++
  "ocultar (\"Dame un numero\");\n" ++
  "borrar numero1;\n" ++
  "# comentario de prueba #\n" ++
  "suma = numero1 - numero2;\n" ++
  "inicio"

def builder : GrammarBuilder where
  entryPoint := some "programa"
  rules := [
    ⟨"programa", [["fin", "lista_instrucciones", "inicio"]]⟩,
    ⟨"lista_instrucciones", [["instruccion"], ["instruccion", "lista_instrucciones"]]⟩,
    ⟨"instruccion",
      [["declaracion", ";"], ["asignacion", ";"], ["entrada_salida", ";"], ["comentario"]]⟩,
    ⟨"declaracion", [["tipo_dato", "lista_variables"]]⟩,
    ⟨"lista_variables", [["identificador"], ["identificador", ",", "lista_variables"]]⟩,
    ⟨"tipo_dato", [["entero"], ["numero"], ["palabra"], ["quiza"]]⟩,
    ⟨"asignacion", [["identificador", "=", "expresion"]]⟩,
    ⟨"entrada_salida", [["ocultar", "(", "elemento_salida", ")"], ["borrar", "identificador"]]⟩,
    ⟨"elemento_salida", [["expresion"], ["expresion", ",", "elemento_salida"]]⟩,
    ⟨"expresion", [["termino"], ["termino", "operador_arit", "expresion"]]⟩,
    ⟨"termino", [["valor"], ["identificador"]]⟩,
    ⟨"operador_arit", [["+"], ["-"], ["*"], ["/"]]⟩,
    ⟨"valor",
      [["numero_entero"], ["numero_decimal"], ["cadena"], ["verdadero"], ["falso"]]⟩,
    ⟨"cadena", [["\"", "texto", "\""]]⟩,
    ⟨"texto", [["palabra_texto"], ["palabra_texto", "texto"]]⟩,
    ⟨"comentario", [["#", "texto", "#"]]⟩,
    ⟨"identificador", [[identifier]]⟩,
    ⟨"numero_entero", [[integer]]⟩,
    ⟨"numero_decimal", [[decimal]]⟩,
    ⟨"palabra_texto", [[word]]⟩]
  patterns := [identifier, integer, decimal, word]

def grammar : Except GrammarError Grammar :=
  builder.build

end TopDown.Demo
