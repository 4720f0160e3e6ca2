import TemplateRegistry.Program
/-!
# Migrations

The schema of the database, as scripts that are applied in the order of their
versions, each of them once.  Which ones were applied the database remembers.

`all` lists the scripts; `pending` those that are still to be applied.
-/

namespace TemplateRegistry

/-- A script that takes the schema one step further. -/
structure Migration where
  version : Nat
  lines : List String

namespace Migration

/-- The text of a script. -/
def script (m : Migration) : String :=
  "\n".intercalate m.lines

/-- Versions of templates and their parameters. -/
def createTemplates : Migration where
  version := 20250101000001
  lines := [
    "-- Template versions. Each row is one immutable version of a named template;",
    "-- only is_active ever changes after insert.",
    "CREATE TABLE templates (",
    "    id                  BIGSERIAL PRIMARY KEY,",
    "    name                TEXT        NOT NULL,",
    "    version             INTEGER     NOT NULL CHECK (version >= 1),",
    "    content             TEXT        NOT NULL,",
    "    category            TEXT        NOT NULL DEFAULT 'general',",
    "    tags                TEXT[]      NOT NULL DEFAULT '\x7b\x7d',",
    "    is_active           BOOLEAN     NOT NULL DEFAULT false,",
    "    created_by          TEXT        NOT NULL,",
    "    previous_version_id BIGINT      REFERENCES templates(id) ON DELETE SET NULL,",
    "    created_at          TIMESTAMPTZ NOT NULL DEFAULT NOW(),",
    "    updated_at          TIMESTAMPTZ NOT NULL DEFAULT NOW(),",
    "    CONSTRAINT uq_templates_name_version UNIQUE (name, version)",
    ");",
    "",
    "-- At most one active version per name; also the O(1) active lookup path.",
    "CREATE UNIQUE INDEX uq_templates_active_name ON templates (name) WHERE is_active;",
    "",
    "CREATE TABLE template_parameters (",
    "    id            BIGSERIAL PRIMARY KEY,",
    "    template_id   BIGINT  NOT NULL REFERENCES templates(id) ON DELETE CASCADE,",
    "    position      INTEGER NOT NULL,",
    "    name          TEXT    NOT NULL,",
    "    description   TEXT    NOT NULL,",
    "    required      BOOLEAN NOT NULL DEFAULT false,",
    "    param_type    TEXT    NOT NULL",
    "        CHECK (param_type IN ('string', 'number', 'boolean', 'array', 'object')),",
    "    default_value JSONB,",
    "    CONSTRAINT uq_template_parameters_name UNIQUE (template_id, name)",
    ");",
    "",
    "CREATE INDEX idx_template_parameters_template ON template_parameters (template_id, position);",
    "",
    "CREATE OR REPLACE FUNCTION set_updated_at() RETURNS TRIGGER AS $$",
    "BEGIN",
    "    NEW.updated_at = NOW();",
    "    RETURN NEW;",
    "END;",
    "$$ LANGUAGE plpgsql;",
    "",
    "CREATE TRIGGER trg_templates_updated_at",
    "    BEFORE UPDATE ON templates",
    "    FOR EACH ROW EXECUTE FUNCTION set_updated_at();"]

/-- Components. -/
def createComponents : Migration where
  version := 20250101000002
  lines := [
    "-- Reusable snippets included by templates. Historical entries share a name;",
    "-- exactly one per name is active. Components are soft-deleted by clearing",
    "-- is_active.",
    "CREATE TABLE components (",
    "    id          BIGSERIAL PRIMARY KEY,",
    "    name        TEXT        NOT NULL,",
    "    version     INTEGER     NOT NULL CHECK (version >= 1),",
    "    content     TEXT        NOT NULL,",
    "    category    TEXT        NOT NULL DEFAULT 'general',",
    "    tags        TEXT[]      NOT NULL DEFAULT '\x7b\x7d',",
    "    is_active   BOOLEAN     NOT NULL DEFAULT true,",
    "    usage_count BIGINT      NOT NULL DEFAULT 0,",
    "    created_at  TIMESTAMPTZ NOT NULL DEFAULT NOW(),",
    "    updated_at  TIMESTAMPTZ NOT NULL DEFAULT NOW(),",
    "    CONSTRAINT uq_components_name_version UNIQUE (name, version)",
    ");",
    "",
    "CREATE UNIQUE INDEX uq_components_active_name ON components (name) WHERE is_active;",
    "",
    "CREATE TRIGGER trg_components_updated_at",
    "    BEFORE UPDATE ON components",
    "    FOR EACH ROW EXECUTE FUNCTION set_updated_at();"]

/-- The version log. -/
def createVersionLog : Migration where
  version := 20250101000003
  lines := [
    "-- Append-only audit trail of template lifecycle transitions. Keyed by name,",
    "-- not by template id, so entries outlive individual versions until the whole",
    "-- family is deleted.",
    "CREATE TABLE template_version_log (",
    "    id            BIGSERIAL PRIMARY KEY,",
    "    template_name TEXT        NOT NULL,",
    "    version       INTEGER     NOT NULL,",
    "    action        TEXT        NOT NULL",
    "        CHECK (action IN ('created', 'activated', 'deactivated', 'rollback', 'deleted')),",
    "    author        TEXT        NOT NULL,",
    "    notes         TEXT,",
    "    metadata      JSONB       NOT NULL DEFAULT '\x7b\x7d',",
    "    timestamp     TIMESTAMPTZ NOT NULL DEFAULT NOW()",
    ");",
    "",
    "CREATE INDEX idx_template_version_log_name ON template_version_log (template_name, id DESC);"]

/-- Renders of templates. -/
def createTemplateUsage : Migration where
  version := 20250101000004
  lines := [
    "-- One row per render of a template's active version by name.",
    "CREATE TABLE template_usage (",
    "    id               BIGSERIAL PRIMARY KEY,",
    "    template_id      BIGINT      NOT NULL REFERENCES templates(id) ON DELETE CASCADE,",
    "    unresolved_count INTEGER     NOT NULL DEFAULT 0,",
    "    rendered_at      TIMESTAMPTZ NOT NULL DEFAULT NOW()",
    ");",
    "",
    "CREATE INDEX idx_template_usage_template ON template_usage (template_id);"]

/-- The scripts, in the order of their versions. -/
def all : List Migration :=
  [createTemplates, createComponents, createVersionLog, createTemplateUsage]

/-- The scripts that are not among the applied ones. -/
def pending (applied : List Nat) : List Migration :=
  all.filter fun m => m.version ∉ applied

end Migration

end TemplateRegistry
